import ProfileShell.Binary64.Basic
import ProfileShell.Json.Basic

/-!
Player profiles.

Times are seconds since the epoch; a profile that has never been played carries the time -1.
-/

set_option autoImplicit false
set_option relaxedAutoImplicit false

namespace ProfileShell

structure Item where
  id : String
  name : String
  deriving DecidableEq

/-- The state of one player. -/
structure Profile where
  id : String
  name : String
  gamemode : String
  difficulty : String
  gamerules : TextMap Json
  characterXp : Binary64
  skillXp : TextMap Binary64
  questStages : TextMap Int64
  achievements : TextMap Bool
  inventory : List Item
  totalPlaytime : Binary64
  lastUpdated : Binary64
  deriving DecidableEq

namespace Profile

def neverUpdated : Binary64 :=
  Binary64.ofInt (-1)

def new (id name : String) : Profile where
  id := id
  name := name
  gamemode := "regular"
  difficulty := "normal"
  gamerules := .empty
  characterXp := .zero
  skillXp := .empty
  questStages := .empty
  achievements := .empty
  inventory := []
  totalPlaytime := .zero
  lastUpdated := neverUpdated

/-- Note that the profile was active at a time. The time since it was last active counts as
playtime, unless it was never active or the clock went back. -/
def touch (p : Profile) (now : Binary64) : Profile :=
  if Binary64.zero.le p.lastUpdated && p.lastUpdated.lt now then
    { p with totalPlaytime := p.totalPlaytime + (now - p.lastUpdated), lastUpdated := now }
  else { p with lastUpdated := now }

/-- Start to play at a time; the time since the profile was last active does not count. -/
def resume (p : Profile) (now : Binary64) : Profile :=
  { p with lastUpdated := now }

end Profile

structure ProfileSummary where
  id : String
  name : String
  deriving DecidableEq

end ProfileShell
