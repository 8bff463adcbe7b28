/-
Clocks of time zones in North America.

A row `(second, kind)` says that from the instant on clocks show the kind with that index.
-/
import TimeBuckets.Zone.Rules

namespace TimeBuckets.Zone

/-- Clocks of `America/Danmarkshavn`. -/
def danmarkshavn : Zone :=
  Zone.ofRows "America/Danmarkshavn" (-10800)
    [⟨-4480, "LMT"⟩, ⟨-10800, "-03"⟩, ⟨-7200, "-02"⟩, ⟨0, "GMT"⟩]
    [(-1686091520, 1), (323845200, 2), (338950800, 1), (354675600, 2), (370400400, 1),
     (386125200, 2), (401850000, 1), (417574800, 2), (433299600, 1), (449024400, 2), (465354000, 1),
     (481078800, 2), (496803600, 1), (512528400, 2), (528253200, 1), (543978000, 2), (559702800, 1),
     (575427600, 2), (591152400, 1), (606877200, 2), (622602000, 1), (638326800, 2), (654656400, 1),
     (670381200, 2), (686106000, 1), (701830800, 2), (717555600, 1), (733280400, 2), (749005200, 1),
     (764730000, 2), (780454800, 1), (796179600, 2), (811904400, 1), (820465200, 3)]

/-- Clocks of `America/Havana`, with the same two changes in every year from 2013 on. -/
def havana : Zone :=
  Zone.ofRules "America/Havana" (-18000)
    [⟨-19768, "LMT"⟩, ⟨-19776, "HMT"⟩, ⟨-18000, "CST"⟩, ⟨-14400, "CDT"⟩]
    [(-2524501832, 1), (-1402813824, 2), (-1311534000, 3), (-1300996800, 2), (-933534000, 3),
     (-925675200, 2), (-902084400, 3), (-893620800, 2), (-870030000, 3), (-862171200, 2),
     (-775681200, 3), (-767822400, 2), (-744231600, 3), (-736372800, 2), (-144702000, 3),
     (-134251200, 2), (-113425200, 3), (-102542400, 2), (-86295600, 3), (-72907200, 2),
     (-54154800, 3), (-41457600, 2), (-21495600, 3), (-5774400, 2), (9954000, 3), (25675200, 2),
     (41403600, 3), (57729600, 2), (73458000, 3), (87364800, 2), (104907600, 3), (118900800, 2),
     (136357200, 3), (150436800, 2), (167806800, 3), (183528000, 2), (199256400, 3), (215582400, 2),
     (230706000, 3), (247032000, 2), (263365200, 3), (276667200, 2), (290581200, 3), (308721600, 2),
     (322030800, 3), (340171200, 2), (358318800, 3), (371620800, 2), (389768400, 3), (403070400, 2),
     (421218000, 3), (434520000, 2), (452667600, 3), (466574400, 2), (484117200, 3), (498024000, 2),
     (511333200, 3), (529473600, 2), (542782800, 3), (560923200, 2), (574837200, 3), (592372800, 2),
     (606286800, 3), (623822400, 2), (638946000, 3), (655876800, 2), (671000400, 3), (687330000, 2),
     (702450000, 3), (718779600, 2), (733899600, 3), (750229200, 2), (765349200, 3), (781678800, 2),
     (796798800, 3), (813128400, 2), (828853200, 3), (844578000, 2), (860302800, 3), (876632400, 2),
     (891147600, 3), (909291600, 2), (922597200, 3), (941346000, 2), (954651600, 3), (972795600, 2),
     (986101200, 3), (1004245200, 2), (1018155600, 3), (1035694800, 2), (1049605200, 3),
     (1067144400, 2), (1080450000, 3), (1162098000, 2), (1173589200, 3), (1193547600, 2),
     (1205643600, 3), (1224997200, 2), (1236488400, 3), (1256446800, 2), (1268542800, 3),
     (1288501200, 2), (1300597200, 3), (1321160400, 2), (1333256400, 3), (1352005200, 2)]
    2013
    [⟨3, .nth 2, 18000, 3⟩,
     ⟨11, .nth 1, 18000, 2⟩]

/-- Clocks of `America/New_York`, with the same two changes in every year from 2007 on. -/
def newYork : Zone :=
  Zone.ofRules "America/New_York" (-18000)
    [⟨-17762, "LMT"⟩, ⟨-18000, "EST"⟩, ⟨-14400, "EDT"⟩, ⟨-14400, "EWT"⟩, ⟨-14400, "EPT"⟩]
    [(-2717650800, 1), (-1633280400, 2), (-1615140000, 1), (-1601830800, 2), (-1583690400, 1),
     (-1570381200, 2), (-1551636000, 1), (-1536512400, 2), (-1523210400, 1), (-1504458000, 2),
     (-1491760800, 1), (-1473008400, 2), (-1459706400, 1), (-1441558800, 2), (-1428256800, 1),
     (-1410109200, 2), (-1396807200, 1), (-1378659600, 2), (-1365357600, 1), (-1347210000, 2),
     (-1333908000, 1), (-1315155600, 2), (-1301853600, 1), (-1283706000, 2), (-1270404000, 1),
     (-1252256400, 2), (-1238954400, 1), (-1220806800, 2), (-1207504800, 1), (-1189357200, 2),
     (-1176055200, 1), (-1157302800, 2), (-1144605600, 1), (-1125853200, 2), (-1112551200, 1),
     (-1094403600, 2), (-1081101600, 1), (-1062954000, 2), (-1049652000, 1), (-1031504400, 2),
     (-1018202400, 1), (-1000054800, 2), (-986752800, 1), (-968000400, 2), (-955303200, 1),
     (-936550800, 2), (-923248800, 1), (-905101200, 2), (-891799200, 1), (-880218000, 3),
     (-769395600, 4), (-765396000, 1), (-747248400, 2), (-733946400, 1), (-715798800, 2),
     (-702496800, 1), (-684349200, 2), (-671047200, 1), (-652899600, 2), (-639597600, 1),
     (-620845200, 2), (-608148000, 1), (-589395600, 2), (-576093600, 1), (-557946000, 2),
     (-544644000, 1), (-526496400, 2), (-513194400, 1), (-495046800, 2), (-481744800, 1),
     (-463597200, 2), (-447271200, 1), (-431542800, 2), (-415821600, 1), (-400093200, 2),
     (-384372000, 1), (-368643600, 2), (-352922400, 1), (-337194000, 2), (-321472800, 1),
     (-305744400, 2), (-289418400, 1), (-273690000, 2), (-257968800, 1), (-242240400, 2),
     (-226519200, 1), (-210790800, 2), (-195069600, 1), (-179341200, 2), (-163620000, 1),
     (-147891600, 2), (-131565600, 1), (-116442000, 2), (-100116000, 1), (-84387600, 2),
     (-68666400, 1), (-52938000, 2), (-37216800, 1), (-21488400, 2), (-5767200, 1), (9961200, 2),
     (25682400, 1), (41410800, 2), (57736800, 1), (73465200, 2), (89186400, 1), (104914800, 2),
     (120636000, 1), (126687600, 2), (152085600, 1), (162370800, 2), (183535200, 1), (199263600, 2),
     (215589600, 1), (230713200, 2), (247039200, 1), (262767600, 2), (278488800, 1), (294217200, 2),
     (309938400, 1), (325666800, 2), (341388000, 1), (357116400, 2), (372837600, 1), (388566000, 2),
     (404892000, 1), (420015600, 2), (436341600, 1), (452070000, 2), (467791200, 1), (483519600, 2),
     (499240800, 1), (514969200, 2), (530690400, 1), (544604400, 2), (562140000, 1), (576054000, 2),
     (594194400, 1), (607503600, 2), (625644000, 1), (638953200, 2), (657093600, 1), (671007600, 2),
     (688543200, 1), (702457200, 2), (719992800, 1), (733906800, 2), (752047200, 1), (765356400, 2),
     (783496800, 1), (796806000, 2), (814946400, 1), (828860400, 2), (846396000, 1), (860310000, 2),
     (877845600, 1), (891759600, 2), (909295200, 1), (923209200, 2), (941349600, 1), (954658800, 2),
     (972799200, 1), (986108400, 2), (1004248800, 1), (1018162800, 2), (1035698400, 1),
     (1049612400, 2), (1067148000, 1), (1081062000, 2), (1099202400, 1), (1112511600, 2),
     (1130652000, 1), (1143961200, 2), (1162101600, 1)]
    2007
    [⟨3, .nth 2, 25200, 2⟩,
     ⟨11, .nth 1, 21600, 1⟩]

/-- Clocks of `EST5EDT`, which is another name of `America/New_York`. -/
def usEastern : Zone := { newYork with name := "EST5EDT" }

/-- Clocks of `America/St_Johns`, with the same two changes in every year from 2012 on. -/
def stJohns : Zone :=
  Zone.ofRules "America/St_Johns" (-12600)
    [⟨-12652, "LMT"⟩, ⟨-12652, "NST"⟩, ⟨-9052, "NDT"⟩, ⟨-12600, "NST"⟩, ⟨-9000, "NDT"⟩,
     ⟨-9000, "NWT"⟩, ⟨-9000, "NPT"⟩, ⟨-5400, "NDDT"⟩]
    [(-2713897748, 1), (-1664130548, 2), (-1650137348, 1), (-1632076148, 2), (-1615145348, 1),
     (-1598650148, 2), (-1590100148, 1), (-1567286948, 2), (-1551565748, 1), (-1535837348, 2),
     (-1520116148, 1), (-1503782948, 2), (-1488666548, 1), (-1472333348, 2), (-1457216948, 1),
     (-1440883748, 2), (-1425767348, 1), (-1409434148, 2), (-1394317748, 1), (-1377984548, 2),
     (-1362263348, 1), (-1346534948, 2), (-1330813748, 1), (-1314480548, 2), (-1299364148, 1),
     (-1283030948, 2), (-1267914548, 1), (-1251581348, 2), (-1236464948, 1), (-1220131748, 2),
     (-1205015348, 1), (-1188682148, 2), (-1172960948, 1), (-1156627748, 2), (-1141511348, 1),
     (-1125178148, 2), (-1110061748, 1), (-1096921748, 3), (-1093728600, 4), (-1078612200, 3),
     (-1061670600, 4), (-1048973400, 3), (-1030221000, 4), (-1017523800, 3), (-998771400, 4),
     (-986074200, 3), (-966717000, 4), (-954624600, 3), (-935267400, 4), (-922570200, 3),
     (-903817800, 4), (-891120600, 3), (-872368200, 5), (-769395600, 6), (-765401400, 3),
     (-746044200, 4), (-733347000, 3), (-714594600, 4), (-701897400, 3), (-683145000, 4),
     (-670447800, 3), (-651695400, 4), (-638998200, 3), (-619641000, 4), (-606943800, 3),
     (-589401000, 4), (-576099000, 3), (-557951400, 4), (-544649400, 3), (-526501800, 4),
     (-513199800, 3), (-495052200, 4), (-481750200, 3), (-463602600, 4), (-450300600, 3),
     (-431548200, 4), (-418246200, 3), (-400098600, 4), (-386796600, 3), (-368649000, 4),
     (-355347000, 3), (-337199400, 4), (-323897400, 3), (-305749800, 4), (-289423800, 3),
     (-273695400, 4), (-257974200, 3), (-242245800, 4), (-226524600, 3), (-210796200, 4),
     (-195075000, 3), (-179346600, 4), (-163625400, 3), (-147897000, 4), (-131571000, 3),
     (-116447400, 4), (-100121400, 3), (-84393000, 4), (-68671800, 3), (-52943400, 4),
     (-37222200, 3), (-21493800, 4), (-5772600, 3), (9955800, 4), (25677000, 3), (41405400, 4),
     (57731400, 3), (73459800, 4), (89181000, 3), (104909400, 4), (120630600, 3), (136359000, 4),
     (152080200, 3), (167808600, 4), (183529800, 3), (199258200, 4), (215584200, 3), (230707800, 4),
     (247033800, 3), (262762200, 4), (278483400, 3), (294211800, 4), (309933000, 3), (325661400, 4),
     (341382600, 3), (357111000, 4), (372832200, 3), (388560600, 4), (404886600, 3), (420010200, 4),
     (436336200, 3), (452064600, 4), (467785800, 3), (483514200, 4), (499235400, 3), (514963800, 4),
     (530685000, 3), (544591860, 4), (562127460, 3), (576041460, 7), (594178260, 3), (607491060, 4),
     (625631460, 3), (638940660, 4), (657081060, 3), (670995060, 4), (688530660, 3), (702444660, 4),
     (719980260, 3), (733894260, 4), (752034660, 3), (765343860, 4), (783484260, 3), (796793460, 4),
     (814933860, 3), (828847860, 4), (846383460, 3), (860297460, 4), (877833060, 3), (891747060, 4),
     (909282660, 3), (923196660, 4), (941337060, 3), (954646260, 4), (972786660, 3), (986095860, 4),
     (1004236260, 3), (1018150260, 4), (1035685860, 3), (1049599860, 4), (1067135460, 3),
     (1081049460, 4), (1099189860, 3), (1112499060, 4), (1130639460, 3), (1143948660, 4),
     (1162089060, 3), (1173583860, 4), (1194143460, 3), (1205033460, 4), (1225593060, 3),
     (1236483060, 4), (1257042660, 3), (1268537460, 4), (1289097060, 3), (1299987060, 4),
     (1320553800, 3)]
    2012
    [⟨3, .nth 2, 19800, 4⟩,
     ⟨11, .nth 1, 16200, 3⟩]

end TimeBuckets.Zone
