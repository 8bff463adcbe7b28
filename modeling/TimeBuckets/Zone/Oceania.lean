/-
Clocks of time zones in Antarctica, Australia and the Pacific.

A row `(second, kind)` says that from the instant on clocks show the kind with that index.
-/
import TimeBuckets.Zone.Rules

namespace TimeBuckets.Zone

/-- Clocks of `Antarctica/Vostok`. -/
def vostok : Zone :=
  Zone.ofRows "Antarctica/Vostok" 25200
    [⟨0, "-00"⟩, ⟨25200, "+07"⟩, ⟨18000, "+05"⟩]
    [(-380073600, 1), (760035600, 0), (783648000, 1), (1702839600, 2)]

/-- Clocks of `Australia/Lord_Howe`, with the same two changes in every year from 2008 on. -/
def lordHowe : Zone :=
  Zone.ofRules "Australia/Lord_Howe" 36000
    [⟨38180, "LMT"⟩, ⟨36000, "AEST"⟩, ⟨37800, "+1030"⟩, ⟨41400, "+1130"⟩, ⟨39600, "+11"⟩]
    [(-2364114980, 1), (352216800, 2), (372785400, 3), (384273000, 2), (404839800, 3),
     (415722600, 2), (436289400, 3), (447172200, 2), (467739000, 3), (478621800, 2), (499188600, 4),
     (511282800, 2), (530033400, 4), (542732400, 2), (562087800, 4), (574786800, 2), (594142200, 4),
     (606236400, 2), (625591800, 4), (636476400, 2), (657041400, 4), (667926000, 2), (688491000, 4),
     (699375600, 2), (719940600, 4), (731430000, 2), (751995000, 4), (762879600, 2), (783444600, 4),
     (794329200, 2), (814894200, 4), (828198000, 2), (846343800, 4), (859647600, 2), (877793400, 4),
     (891097200, 2), (909243000, 4), (922546800, 2), (941297400, 4), (953996400, 2), (967303800, 4),
     (985446000, 2), (1004196600, 4), (1017500400, 2), (1035646200, 4), (1048950000, 2),
     (1067095800, 4), (1080399600, 2), (1099150200, 4), (1111849200, 2), (1130599800, 4),
     (1143903600, 2), (1162049400, 4), (1174748400, 2), (1193499000, 4)]
    2008
    [⟨4, .nth 1, -32400, 2⟩,
     ⟨10, .nth 1, -30600, 4⟩]

/-- Clocks of `Pacific/Apia`. -/
def apia : Zone :=
  Zone.ofRows "Pacific/Apia" (-39600)
    [⟨45184, "LMT"⟩, ⟨-41216, "LMT"⟩, ⟨-41400, "-1130"⟩, ⟨-39600, "-11"⟩, ⟨-36000, "-10"⟩,
     ⟨50400, "+14"⟩, ⟨46800, "+13"⟩]
    [(-2445424384, 1), (-1861878784, 2), (-631110600, 3), (1285498800, 4), (1301752800, 3),
     (1316872800, 4), (1325239200, 5), (1333202400, 6), (1348927200, 5), (1365256800, 6),
     (1380376800, 5), (1396706400, 6), (1411826400, 5), (1428156000, 6), (1443276000, 5),
     (1459605600, 6), (1474725600, 5), (1491055200, 6), (1506175200, 5), (1522504800, 6),
     (1538229600, 5), (1554559200, 6), (1569679200, 5), (1586008800, 6), (1601128800, 5),
     (1617458400, 6)]

/-- Clocks of `Pacific/Chatham`, with the same two changes in every year from 2008 on. -/
def chatham : Zone :=
  Zone.ofRules "Pacific/Chatham" 45900
    [⟨44028, "LMT"⟩, ⟨44100, "+1215"⟩, ⟨45900, "+1245"⟩, ⟨49500, "+1345"⟩]
    [(-3192437628, 1), (-757426500, 2), (152632800, 3), (162309600, 2), (183477600, 3),
     (194968800, 2), (215532000, 3), (226418400, 2), (246981600, 3), (257868000, 2), (278431200, 3),
     (289317600, 2), (309880800, 3), (320767200, 2), (341330400, 3), (352216800, 2), (372780000, 3),
     (384271200, 2), (404834400, 3), (415720800, 2), (436284000, 3), (447170400, 2), (467733600, 3),
     (478620000, 2), (499183200, 3), (510069600, 2), (530632800, 3), (541519200, 2), (562082400, 3),
     (573573600, 2), (594136800, 3), (605023200, 2), (623772000, 3), (637682400, 2), (655221600, 3),
     (669132000, 2), (686671200, 3), (700581600, 2), (718120800, 3), (732636000, 2), (749570400, 3),
     (764085600, 2), (781020000, 3), (795535200, 2), (812469600, 3), (826984800, 2), (844524000, 3),
     (858434400, 2), (875973600, 3), (889884000, 2), (907423200, 3), (921938400, 2), (938872800, 3),
     (953388000, 2), (970322400, 3), (984837600, 2), (1002376800, 3), (1016287200, 2),
     (1033826400, 3), (1047736800, 2), (1065276000, 3), (1079791200, 2), (1096725600, 3),
     (1111240800, 2), (1128175200, 3), (1142690400, 2), (1159624800, 3), (1174140000, 2),
     (1191074400, 3)]
    2008
    [⟨4, .nth 1, -36000, 2⟩,
     ⟨9, .last, -36000, 3⟩]

/-- Clocks of `Pacific/Kiritimati`. -/
def kiritimati : Zone :=
  Zone.ofRows "Pacific/Kiritimati" (-38400)
    [⟨-37760, "LMT"⟩, ⟨-38400, "-1040"⟩, ⟨-36000, "-10"⟩, ⟨50400, "+14"⟩]
    [(-2177415040, 1), (307622400, 2), (788868000, 3)]

end TimeBuckets.Zone
