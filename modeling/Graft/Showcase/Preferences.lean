import Graft.Store.Accessor

/-!
# Preferences

A record of preferences whose properties are kept in a store, one of them in the store that all
records share.
-/

namespace Graft.Showcase

/-- A theme, stored by its name. -/
inductive Theme where
  | light
  | dark
deriving DecidableEq, Repr, Inhabited

/-- The name of a theme. -/
def Theme.text : Theme → String
  | .light => "light"
  | .dark => "dark"

/-- The theme of a name. -/
def Theme.ofText? : String → Option Theme
  | "light" => some .light
  | "dark" => some .dark
  | _ => none

instance : Storable Theme where
  ofStored? := fun
    | .string s => Theme.ofText? s
    | _ => none
  toStored t := .string t.text

/-- The preferences: a store of their own, and the shared one. -/
structure Preferences where
  own : Store
  shared : Store
deriving Inhabited

namespace Preferences

/-- Preferences that were never set. -/
def new : Preferences := ⟨.empty, .empty⟩

/-- How often the program was started. -/
def launchCount : Accessor Int64 := .integer "launch_count" 3

/-- Whether the introduction is shown. -/
def showOnboarding : Accessor Bool := .bool "onboarding.visible" true

/-- The size of the text. -/
def textScale : Accessor Double := .float "text_scale" 0x3ff8000000000000#64

/-- The name of the user. -/
def userName : Accessor String := .string "user_name" "guest"

/-- The theme. -/
def theme : Accessor Theme := .typed "theme" .dark

/-- How often something is tried. -/
def retries : Accessor (IntOf .u32) := .typed "retries" ⟨3, by decide⟩

/-- A small number that may be negative. -/
def offset : Accessor (IntOf .i8) := .typed "offset" ⟨-1, by decide⟩

/-- The volume. -/
def volume : Accessor Single := .typed "volume" 0x3f4ccccd#32

/-- A counter that all preferences share. -/
def globalCounter : Accessor Int64 := .integer "global_counter" 0

/-- A setter's call. -/
inductive Change where
  | launchCount (n : Int64)
  | showOnboarding (b : Bool)
  | textScale (x : Double)
  | userName (s : String)
  | theme (t : Theme)
  | retries (n : IntOf .u32)
  | offset (n : IntOf .i8)
  | volume (x : Single)
  | globalCounter (n : Int64)

/-- The preferences after a setter's call. -/
def apply (p : Preferences) : Change → Preferences
  | .launchCount n => { p with own := Preferences.launchCount.set p.own n }
  | .showOnboarding b => { p with own := Preferences.showOnboarding.set p.own b }
  | .textScale x => { p with own := Preferences.textScale.set p.own x }
  | .userName s => { p with own := Preferences.userName.set p.own s }
  | .theme t => { p with own := Preferences.theme.set p.own t }
  | .retries n => { p with own := Preferences.retries.set p.own n }
  | .offset n => { p with own := Preferences.offset.set p.own n }
  | .volume x => { p with own := Preferences.volume.set p.own x }
  | .globalCounter n => { p with shared := Preferences.globalCounter.set p.shared n }

end Preferences

end Graft.Showcase
