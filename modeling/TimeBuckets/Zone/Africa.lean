/-
Clocks of time zones in Africa.

A row `(second, kind)` says that from the instant on clocks show the kind with that index.
-/
import TimeBuckets.Zone.Rules

namespace TimeBuckets.Zone

/-- Clocks of `Africa/Casablanca`. -/
def casablanca : Zone :=
  Zone.ofRows "Africa/Casablanca" 0
    [⟨-1820, "LMT"⟩, ⟨0, "+00"⟩, ⟨3600, "+01"⟩]
    [(-1773012580, 1), (-956361600, 2), (-950490000, 1), (-942019200, 2), (-761187600, 1),
     (-617241600, 2), (-605149200, 1), (-81432000, 2), (-71110800, 1), (141264000, 2),
     (147222000, 1), (199756800, 2), (207702000, 1), (231292800, 2), (244249200, 1), (265507200, 2),
     (271033200, 1), (448243200, 2), (504918000, 1), (1212278400, 2), (1220223600, 1),
     (1243814400, 2), (1250809200, 1), (1272758400, 2), (1281222000, 1), (1301788800, 2),
     (1312066800, 1), (1335664800, 2), (1342749600, 1), (1345428000, 2), (1348970400, 1),
     (1367114400, 2), (1373162400, 1), (1376100000, 2), (1382839200, 1), (1396144800, 2),
     (1403920800, 1), (1406944800, 2), (1414288800, 1), (1427594400, 2), (1434247200, 1),
     (1437271200, 2), (1445738400, 1), (1459044000, 2), (1465092000, 1), (1468116000, 2),
     (1477792800, 1), (1490493600, 2), (1495332000, 1), (1498960800, 2), (1509242400, 1),
     (1521943200, 2), (1526176800, 1), (1529200800, 2), (1557021600, 1), (1560045600, 2),
     (1587261600, 1), (1590890400, 2), (1618106400, 1), (1621130400, 2), (1648346400, 1),
     (1651975200, 2), (1679191200, 1), (1682215200, 2), (1710036000, 1), (1713060000, 2),
     (1740276000, 1), (1743904800, 2), (1771120800, 1), (1774144800, 2), (1801965600, 1),
     (1804989600, 2), (1832205600, 1), (1835834400, 2), (1863050400, 1), (1866074400, 2),
     (1893290400, 1), (1896919200, 2), (1924135200, 1), (1927159200, 2), (1954980000, 1),
     (1958004000, 2), (1985220000, 1), (1988848800, 2), (2016064800, 1), (2019088800, 2),
     (2046304800, 1), (2049933600, 2), (2077149600, 1), (2080778400, 2), (2107994400, 1),
     (2111018400, 2), (2138234400, 1), (2141863200, 2), (2169079200, 1), (2172103200, 2),
     (2199924000, 1), (2202948000, 2), (2230164000, 1), (2233792800, 2), (2261008800, 1),
     (2264032800, 2), (2291248800, 1), (2294877600, 2), (2322093600, 1), (2325722400, 2),
     (2352938400, 1), (2355962400, 2), (2383178400, 1), (2386807200, 2), (2414023200, 1),
     (2417047200, 2), (2444868000, 1), (2447892000, 2), (2475108000, 1), (2478736800, 2),
     (2505952800, 1), (2508976800, 2), (2536192800, 1), (2539821600, 2), (2567037600, 1),
     (2570666400, 2), (2597882400, 1), (2600906400, 2), (2628122400, 1), (2631751200, 2),
     (2658967200, 1), (2661991200, 2), (2689812000, 1), (2692836000, 2), (2720052000, 1),
     (2723680800, 2), (2750896800, 1), (2753920800, 2), (2781136800, 1), (2784765600, 2),
     (2811981600, 1), (2815610400, 2), (2842826400, 1), (2845850400, 2), (2873066400, 1),
     (2876695200, 2), (2903911200, 1), (2906935200, 2), (2934756000, 1), (2937780000, 2),
     (2964996000, 1), (2968624800, 2), (2995840800, 1), (2998864800, 2), (3026080800, 1),
     (3029709600, 2), (3056925600, 1), (3060554400, 2), (3087770400, 1), (3090794400, 2),
     (3118010400, 1), (3121639200, 2), (3148855200, 1), (3151879200, 2), (3179700000, 1),
     (3182724000, 2), (3209940000, 1), (3213568800, 2), (3240784800, 1), (3243808800, 2),
     (3271024800, 1), (3274653600, 2), (3301869600, 1), (3305498400, 2), (3332714400, 1),
     (3335738400, 2), (3362954400, 1), (3366583200, 2), (3393799200, 1), (3396823200, 2),
     (3424644000, 1), (3427668000, 2), (3454884000, 1), (3458512800, 2), (3485728800, 1),
     (3488752800, 2), (3515968800, 1), (3519597600, 2), (3546813600, 1), (3549837600, 2),
     (3577658400, 1), (3580682400, 2), (3607898400, 1), (3611527200, 2), (3638743200, 1),
     (3641767200, 2), (3669588000, 1), (3672612000, 2), (3699828000, 1), (3703456800, 2)]

/-- Clocks of `Africa/Monrovia`. -/
def monrovia : Zone :=
  Zone.ofRows "Africa/Monrovia" (-2670)
    [⟨-2588, "LMT"⟩, ⟨-2588, "MMT"⟩, ⟨-2670, "MMT"⟩, ⟨0, "GMT"⟩]
    [(-2776979812, 1), (-1604359012, 2), (63593070, 3)]

end TimeBuckets.Zone
