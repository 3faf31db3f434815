import SpatialSql.Settings.Basic
/-!
# Handles on settings

Settings are held through handles.  A copy of a handle holds the same settings, so that a change
through one is seen through the other; every handle that is opened holds settings of its own.
-/

namespace SpatialSql.Settings

/-- Settings in the order in which they were opened, and for each handle the number of those it
holds. -/
structure Session where
  cells : List Settings
  handles : List Nat
  deriving DecidableEq

namespace Session

def empty : Session := ⟨[], []⟩

/-- A new handle on settings of its own. -/
def add (session : Session) (settings : Settings) : Session :=
  ⟨session.cells ++ [settings], session.handles ++ [session.cells.length]⟩

def get? (session : Session) (handle : Nat) : Option Settings := do
  session.cells[← session.handles[handle]?]?

/-- A new handle on the settings of another. -/
def copy (session : Session) (handle : Nat) : Session :=
  match session.handles[handle]? with
  | some cell => { session with handles := session.handles ++ [cell] }
  | none => session

def change (session : Session) (handle : Nat) (change : Change) :
    Except Fault Unit × Session :=
  match session.handles[handle]?, session.get? handle with
  | some cell, some settings =>
    match settings.change change with
    | .ok changed => (.ok (), { session with cells := session.cells.set cell changed })
    | .error fault => (.error fault, session)
  | _, _ => (.ok (), session)

def states (session : Session) : List Settings := session.handles.filterMap (session.cells[·]?)

end Session

end SpatialSql.Settings
