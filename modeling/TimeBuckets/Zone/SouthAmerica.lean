/-
Clocks of time zones in South America.

A row `(second, kind)` says that from the instant on clocks show the kind with that index.
-/
import TimeBuckets.Zone.Rules

namespace TimeBuckets.Zone

/-- Clocks of `America/Asuncion`. -/
def asuncion : Zone :=
  Zone.ofRows "America/Asuncion" (-14400)
    [⟨-13840, "LMT"⟩, ⟨-13840, "AMT"⟩, ⟨-14400, "-04"⟩, ⟨-10800, "-03"⟩]
    [(-2524507760, 1), (-1206389360, 2), (86760000, 3), (134017200, 2), (181368000, 3),
     (194497200, 2), (212990400, 3), (226033200, 2), (244526400, 3), (257569200, 2), (276062400, 3),
     (291783600, 2), (307598400, 3), (323406000, 2), (339220800, 3), (354942000, 2), (370756800, 3),
     (386478000, 2), (402292800, 3), (418014000, 2), (433828800, 3), (449636400, 2), (465451200, 3),
     (481172400, 2), (496987200, 3), (512708400, 2), (528523200, 3), (544244400, 2), (560059200, 3),
     (575866800, 2), (591681600, 3), (607402800, 2), (625032000, 3), (638938800, 2), (654753600, 3),
     (670474800, 2), (686721600, 3), (699418800, 2), (718257600, 3), (733546800, 2), (749448000, 3),
     (762318000, 2), (780984000, 3), (793767600, 2), (812520000, 3), (825649200, 2), (844574400, 3),
     (856666800, 2), (876024000, 3), (888721200, 2), (907473600, 3), (920775600, 2), (938923200, 3),
     (952225200, 2), (970372800, 3), (983674800, 2), (1002427200, 3), (1018148400, 2),
     (1030852800, 3), (1049598000, 2), (1062907200, 3), (1081047600, 2), (1097985600, 3),
     (1110682800, 2), (1129435200, 3), (1142132400, 2), (1160884800, 3), (1173582000, 2),
     (1192939200, 3), (1205031600, 2), (1224388800, 3), (1236481200, 2), (1255838400, 3),
     (1270954800, 2), (1286078400, 3), (1302404400, 2), (1317528000, 3), (1333854000, 2),
     (1349582400, 3), (1364094000, 2), (1381032000, 3), (1395543600, 2), (1412481600, 3),
     (1426993200, 2), (1443931200, 3), (1459047600, 2), (1475380800, 3), (1490497200, 2),
     (1506830400, 3), (1521946800, 2), (1538884800, 3), (1553396400, 2), (1570334400, 3),
     (1584846000, 2), (1601784000, 3), (1616900400, 2), (1633233600, 3), (1648350000, 2),
     (1664683200, 3), (1679799600, 2), (1696132800, 3), (1711249200, 2), (1728187200, 3)]

/-- Clocks of `America/Guyana`. -/
def guyana : Zone :=
  Zone.ofRows "America/Guyana" (-13500)
    [⟨-13959, "LMT"⟩, ⟨-14400, "-04"⟩, ⟨-13500, "-0345"⟩, ⟨-10800, "-03"⟩]
    [(-1843589241, 1), (-1730577600, 2), (176096700, 3), (701841600, 1)]

/-- Clocks of `America/Lima`. -/
def lima : Zone :=
  Zone.ofRows "America/Lima" (-18000)
    [⟨-18492, "LMT"⟩, ⟨-18516, "LMT"⟩, ⟨-18000, "-05"⟩, ⟨-14400, "-04"⟩]
    [(-2524503108, 1), (-1938538284, 2), (-1009825200, 3), (-1002052800, 2), (-986756400, 3),
     (-971035200, 2), (-955306800, 3), (-939585600, 2), (504939600, 3), (512712000, 2),
     (536475600, 3), (544248000, 2), (631170000, 3), (638942400, 2), (757400400, 3), (765172800, 2)]

/-- Clocks of `America/Paramaribo`. -/
def paramaribo : Zone :=
  Zone.ofRows "America/Paramaribo" (-12600)
    [⟨-13240, "LMT"⟩, ⟨-13252, "PMT"⟩, ⟨-13236, "PMT"⟩, ⟨-12600, "-0330"⟩, ⟨-10800, "-03"⟩]
    [(-1861906760, 1), (-1104524348, 2), (-765317964, 3), (465449400, 4)]

/-- Clocks of `America/Sao_Paulo`. -/
def saoPaulo : Zone :=
  Zone.ofRows "America/Sao_Paulo" (-10800)
    [⟨-11188, "LMT"⟩, ⟨-10800, "-03"⟩, ⟨-7200, "-02"⟩]
    [(-1767214412, 1), (-1206957600, 2), (-1191362400, 1), (-1175374800, 2), (-1159826400, 1),
     (-633819600, 2), (-622069200, 1), (-602283600, 2), (-591832800, 1), (-570747600, 2),
     (-560210400, 1), (-539125200, 2), (-531352800, 1), (-195426000, 2), (-184197600, 1),
     (-155163600, 2), (-150069600, 1), (-128898000, 2), (-121125600, 1), (-99954000, 2),
     (-89589600, 1), (-68418000, 2), (-57967200, 1), (499748400, 2), (511236000, 1), (530593200, 2),
     (540266400, 1), (562129200, 2), (571197600, 1), (592974000, 2), (602042400, 1), (624423600, 2),
     (634701600, 1), (656478000, 2), (666756000, 1), (687927600, 2), (697600800, 1), (719982000, 2),
     (728445600, 1), (750826800, 2), (761709600, 1), (782276400, 2), (793159200, 1), (813726000, 2),
     (824004000, 1), (844570800, 2), (856058400, 1), (876106800, 2), (888717600, 1), (908074800, 2),
     (919562400, 1), (938919600, 2), (951616800, 1), (970974000, 2), (982461600, 1),
     (1003028400, 2), (1013911200, 1), (1036292400, 2), (1045360800, 1), (1066532400, 2),
     (1076810400, 1), (1099364400, 2), (1108864800, 1), (1129431600, 2), (1140314400, 1),
     (1162695600, 2), (1172368800, 1), (1192330800, 2), (1203213600, 1), (1224385200, 2),
     (1234663200, 1), (1255834800, 2), (1266717600, 1), (1287284400, 2), (1298167200, 1),
     (1318734000, 2), (1330221600, 1), (1350788400, 2), (1361066400, 1), (1382238000, 2),
     (1392516000, 1), (1413687600, 2), (1424570400, 1), (1445137200, 2), (1456020000, 1),
     (1476586800, 2), (1487469600, 1), (1508036400, 2), (1518919200, 1), (1541300400, 2),
     (1550368800, 1)]

end TimeBuckets.Zone
