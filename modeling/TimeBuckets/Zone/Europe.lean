/-
Clocks of time zones in Europe.

A row `(second, kind)` says that from the instant on clocks show the kind with that index.
-/
import TimeBuckets.Zone.Rules

namespace TimeBuckets.Zone

/-- Clocks of `Europe/Dublin`, with the same two changes in every year from 1996 on. -/
def dublin : Zone :=
  Zone.ofRules "Europe/Dublin" 3600
    [⟨-1521, "LMT"⟩, ⟨-1521, "DMT"⟩, ⟨2079, "IST"⟩, ⟨0, "GMT"⟩, ⟨3600, "BST"⟩, ⟨3600, "IST"⟩]
    [(-2821649679, 1), (-1691962479, 2), (-1680471279, 3), (-1664143200, 4), (-1650146400, 3),
     (-1633903200, 4), (-1617487200, 3), (-1601848800, 4), (-1586037600, 3), (-1570399200, 4),
     (-1552168800, 3), (-1538344800, 4), (-1522533600, 3), (-1507500000, 5), (-1490565600, 3),
     (-1473631200, 5), (-1460930400, 3), (-1442786400, 5), (-1428876000, 3), (-1410732000, 5),
     (-1396216800, 3), (-1379282400, 5), (-1364767200, 3), (-1348437600, 5), (-1333317600, 3),
     (-1315778400, 5), (-1301263200, 3), (-1284328800, 5), (-1269813600, 3), (-1253484000, 5),
     (-1238364000, 3), (-1221429600, 5), (-1206914400, 3), (-1189980000, 5), (-1175464800, 3),
     (-1159135200, 5), (-1143410400, 3), (-1126476000, 5), (-1111960800, 3), (-1095631200, 5),
     (-1080511200, 3), (-1063576800, 5), (-1049061600, 3), (-1032127200, 5), (-1017612000, 3),
     (-1001282400, 5), (-986162400, 3), (-969228000, 5), (-950479200, 3), (-942012000, 5),
     (-733356000, 3), (-719445600, 5), (-699487200, 3), (-684972000, 5), (-668037600, 3),
     (-654732000, 5), (-636588000, 3), (-622072800, 5), (-605743200, 3), (-590623200, 5),
     (-574293600, 3), (-558568800, 5), (-542239200, 3), (-527119200, 5), (-512604000, 3),
     (-496274400, 5), (-481154400, 3), (-464220000, 5), (-449704800, 3), (-432165600, 5),
     (-417650400, 3), (-401320800, 5), (-386200800, 3), (-369266400, 5), (-354751200, 3),
     (-337816800, 5), (-323301600, 3), (-306972000, 5), (-291852000, 3), (-276732000, 5),
     (-257983200, 3), (-245282400, 5), (-226533600, 3), (-213228000, 5), (-195084000, 3),
     (-182383200, 5), (-163634400, 3), (-150933600, 5), (-132184800, 3), (-119484000, 5),
     (-100735200, 3), (-88034400, 5), (-68680800, 3), (-59004000, 5), (57722400, 3), (69818400, 5),
     (89172000, 3), (101268000, 5), (120621600, 3), (132717600, 5), (152071200, 3), (164167200, 5),
     (183520800, 3), (196221600, 5), (214970400, 3), (227671200, 5), (246420000, 3), (259120800, 5),
     (278474400, 3), (290570400, 5), (309924000, 3), (322020000, 5), (341373600, 3), (354675600, 5),
     (372819600, 3), (386125200, 5), (404269200, 3), (417574800, 5), (435718800, 3), (449024400, 5),
     (467773200, 3), (481078800, 5), (499222800, 3), (512528400, 5), (530672400, 3), (543978000, 5),
     (562122000, 3), (575427600, 5), (593571600, 3), (606877200, 5), (625626000, 3), (638326800, 5),
     (657075600, 3), (670381200, 5), (688525200, 3), (701830800, 5), (719974800, 3), (733280400, 5),
     (751424400, 3), (764730000, 5), (782874000, 3), (796179600, 5), (814323600, 3)]
    1996
    [⟨3, .last, 3600, 5⟩,
     ⟨10, .last, 3600, 3⟩]

/-- Clocks of `Europe/London`, with the same two changes in every year from 1996 on. -/
def london : Zone :=
  Zone.ofRules "Europe/London" 3600
    [⟨-75, "LMT"⟩, ⟨0, "GMT"⟩, ⟨3600, "BST"⟩, ⟨7200, "BDST"⟩]
    [(-3852662325, 1), (-1691964000, 2), (-1680472800, 1), (-1664143200, 2), (-1650146400, 1),
     (-1633903200, 2), (-1617487200, 1), (-1601848800, 2), (-1586037600, 1), (-1570399200, 2),
     (-1552168800, 1), (-1538344800, 2), (-1522533600, 1), (-1507500000, 2), (-1490565600, 1),
     (-1473631200, 2), (-1460930400, 1), (-1442786400, 2), (-1428876000, 1), (-1410732000, 2),
     (-1396216800, 1), (-1379282400, 2), (-1364767200, 1), (-1348437600, 2), (-1333317600, 1),
     (-1315778400, 2), (-1301263200, 1), (-1284328800, 2), (-1269813600, 1), (-1253484000, 2),
     (-1238364000, 1), (-1221429600, 2), (-1206914400, 1), (-1189980000, 2), (-1175464800, 1),
     (-1159135200, 2), (-1143410400, 1), (-1126476000, 2), (-1111960800, 1), (-1095631200, 2),
     (-1080511200, 1), (-1063576800, 2), (-1049061600, 1), (-1032127200, 2), (-1017612000, 1),
     (-1001282400, 2), (-986162400, 1), (-969228000, 2), (-950479200, 1), (-942012000, 2),
     (-904518000, 3), (-896050800, 2), (-875487600, 3), (-864601200, 2), (-844038000, 3),
     (-832546800, 2), (-812588400, 3), (-798073200, 2), (-781052400, 3), (-772066800, 2),
     (-764805600, 1), (-748476000, 2), (-733356000, 1), (-719445600, 2), (-717030000, 3),
     (-706748400, 2), (-699487200, 1), (-687996000, 2), (-668037600, 1), (-654732000, 2),
     (-636588000, 1), (-622072800, 2), (-605743200, 1), (-590623200, 2), (-574293600, 1),
     (-558568800, 2), (-542239200, 1), (-527119200, 2), (-512604000, 1), (-496274400, 2),
     (-481154400, 1), (-464220000, 2), (-449704800, 1), (-432165600, 2), (-417650400, 1),
     (-401320800, 2), (-386200800, 1), (-369266400, 2), (-354751200, 1), (-337816800, 2),
     (-323301600, 1), (-306972000, 2), (-291852000, 1), (-276732000, 2), (-257983200, 1),
     (-245282400, 2), (-226533600, 1), (-213228000, 2), (-195084000, 1), (-182383200, 2),
     (-163634400, 1), (-150933600, 2), (-132184800, 1), (-119484000, 2), (-100735200, 1),
     (-88034400, 2), (-68680800, 1), (-59004000, 2), (57722400, 1), (69818400, 2), (89172000, 1),
     (101268000, 2), (120621600, 1), (132717600, 2), (152071200, 1), (164167200, 2), (183520800, 1),
     (196221600, 2), (214970400, 1), (227671200, 2), (246420000, 1), (259120800, 2), (278474400, 1),
     (290570400, 2), (309924000, 1), (322020000, 2), (341373600, 1), (354675600, 2), (372819600, 1),
     (386125200, 2), (404269200, 1), (417574800, 2), (435718800, 1), (449024400, 2), (467773200, 1),
     (481078800, 2), (499222800, 1), (512528400, 2), (530672400, 1), (543978000, 2), (562122000, 1),
     (575427600, 2), (593571600, 1), (606877200, 2), (625626000, 1), (638326800, 2), (657075600, 1),
     (670381200, 2), (688525200, 1), (701830800, 2), (719974800, 1), (733280400, 2), (751424400, 1),
     (764730000, 2), (782874000, 1), (796179600, 2), (814323600, 1)]
    1996
    [⟨3, .last, 3600, 2⟩,
     ⟨10, .last, 3600, 1⟩]

/-- Clocks of `Europe/Paris`, with the same two changes in every year from 1996 on. -/
def paris : Zone :=
  Zone.ofRules "Europe/Paris" 3600
    [⟨561, "LMT"⟩, ⟨561, "PMT"⟩, ⟨0, "WET"⟩, ⟨3600, "WEST"⟩, ⟨7200, "CEST"⟩, ⟨3600, "CET"⟩,
     ⟨7200, "WEMT"⟩]
    [(-2486592561, 1), (-1855958961, 2), (-1689814800, 3), (-1680397200, 2), (-1665363600, 3),
     (-1648342800, 2), (-1635123600, 3), (-1616893200, 2), (-1604278800, 3), (-1585443600, 2),
     (-1574038800, 3), (-1552266000, 2), (-1539997200, 3), (-1520557200, 2), (-1507510800, 3),
     (-1490576400, 2), (-1470618000, 3), (-1459126800, 2), (-1444006800, 3), (-1427677200, 2),
     (-1411952400, 3), (-1396227600, 2), (-1379293200, 3), (-1364778000, 2), (-1348448400, 3),
     (-1333328400, 2), (-1316394000, 3), (-1301274000, 2), (-1284339600, 3), (-1269824400, 2),
     (-1253494800, 3), (-1238374800, 2), (-1221440400, 3), (-1206925200, 2), (-1191200400, 3),
     (-1175475600, 2), (-1160355600, 3), (-1143421200, 2), (-1127696400, 3), (-1111971600, 2),
     (-1096851600, 3), (-1080522000, 2), (-1063587600, 3), (-1049072400, 2), (-1033347600, 3),
     (-1017622800, 2), (-1002502800, 3), (-986173200, 2), (-969238800, 3), (-950490000, 2),
     (-942012000, 3), (-932436000, 4), (-857257200, 5), (-844556400, 4), (-828226800, 5),
     (-812502000, 4), (-800071200, 6), (-796266000, 3), (-781052400, 6), (-766623600, 5),
     (196819200, 4), (212540400, 5), (228877200, 4), (243997200, 5), (260326800, 4), (276051600, 5),
     (291776400, 4), (307501200, 5), (323830800, 4), (338950800, 5), (354675600, 4), (370400400, 5),
     (386125200, 4), (401850000, 5), (417574800, 4), (433299600, 5), (449024400, 4), (465354000, 5),
     (481078800, 4), (496803600, 5), (512528400, 4), (528253200, 5), (543978000, 4), (559702800, 5),
     (575427600, 4), (591152400, 5), (606877200, 4), (622602000, 5), (638326800, 4), (654656400, 5),
     (670381200, 4), (686106000, 5), (701830800, 4), (717555600, 5), (733280400, 4), (749005200, 5),
     (764730000, 4), (780454800, 5), (796179600, 4), (811904400, 5)]
    1996
    [⟨3, .last, 3600, 4⟩,
     ⟨10, .last, 3600, 5⟩]

end TimeBuckets.Zone
