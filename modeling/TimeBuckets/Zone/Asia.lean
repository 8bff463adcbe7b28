/-
Clocks of time zones in Asia.

A row `(second, kind)` says that from the instant on clocks show the kind with that index.
-/
import TimeBuckets.Zone.Rules

namespace TimeBuckets.Zone

/-- Clocks of `Asia/Kathmandu`. -/
def kathmandu : Zone :=
  Zone.ofRows "Asia/Kathmandu" 19800
    [⟨20476, "LMT"⟩, ⟨19800, "+0530"⟩, ⟨20700, "+0545"⟩]
    [(-1577943676, 1), (504901800, 2)]

/-- Clocks of `Asia/Kolkata`. -/
def kolkata : Zone :=
  Zone.ofRows "Asia/Kolkata" 19800
    [⟨21208, "LMT"⟩, ⟨21200, "HMT"⟩, ⟨19270, "MMT"⟩, ⟨19800, "IST"⟩, ⟨23400, "+0630"⟩]
    [(-3645237208, 1), (-3155694800, 2), (-2019705670, 3), (-891581400, 4), (-872058600, 3),
     (-862637400, 4), (-764145000, 3)]

/-- Clocks of `Asia/Calcutta`, which is another name of `Asia/Kolkata`. -/
def calcutta : Zone := { kolkata with name := "Asia/Calcutta" }

/-- Clocks of `Asia/Tokyo`. -/
def tokyo : Zone :=
  Zone.ofRows "Asia/Tokyo" 32400
    [⟨33539, "LMT"⟩, ⟨32400, "JST"⟩, ⟨36000, "JDT"⟩]
    [(-2587712400, 1), (-683802000, 2), (-672310800, 1), (-654771600, 2), (-640861200, 1),
     (-620298000, 2), (-609411600, 1), (-588848400, 2), (-577962000, 1)]

end TimeBuckets.Zone
