/-
Time zones by name.

* `Zone.all` — the zones that are known;
* `Zone.find?`, `Zone.parse` — the zone with a given name, spelled exactly.
-/
import TimeBuckets.Fault
import TimeBuckets.Zone.Africa
import TimeBuckets.Zone.Asia
import TimeBuckets.Zone.Europe
import TimeBuckets.Zone.NorthAmerica
import TimeBuckets.Zone.Oceania
import TimeBuckets.Zone.SouthAmerica

namespace TimeBuckets.Zone

/-- Coordinated universal time. -/
def utc : Zone := ⟨"UTC", 0, ⟨0, "UTC"⟩, [], rfl⟩

/-- Greenwich mean time without any change. -/
def gmt : Zone := ⟨"GMT", 0, ⟨0, "GMT"⟩, [], rfl⟩

/-- Twelve hours behind UTC. -/
def twelveWest : Zone := ⟨"Etc/GMT+12", -43200, ⟨-43200, "-12"⟩, [], rfl⟩

/-- The zones that are known. -/
def all : List Zone :=
  [utc, gmt, twelveWest, casablanca, monrovia, danmarkshavn, havana, newYork, usEastern, stJohns,
   asuncion, guyana, lima, paramaribo, saoPaulo, kathmandu, kolkata, calcutta, tokyo, dublin,
   london, paris, vostok, lordHowe, apia, chatham, kiritimati]

/-- The zone with a given name. -/
def find? (name : String) : Option Zone := all.find? fun z => z.name == name

/-- The zone with a given name, or the fault that there is none. -/
def parse (name : String) : Except SettingFault Zone :=
  match find? name with
  | some z => .ok z
  | none => .error (.unknownZone name)

end TimeBuckets.Zone
