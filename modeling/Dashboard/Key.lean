/-!
# Keys

The keys of a terminal, and the modifiers held with them.

## Main definitions

* `Key`, `Modifiers`.
* `MediaKey`, `ModifierKey` — keys that have no character and no place in a text.
-/

namespace Dashboard

/-- The keys that steer a player. -/
inductive MediaKey where
  | play
  | pause
  | playPause
  | reverse
  | stop
  | fastForward
  | rewind
  | trackNext
  | trackPrevious
  | record
  | lowerVolume
  | raiseVolume
  | muteVolume
  deriving DecidableEq

/-- The modifiers as keys of their own. -/
inductive ModifierKey where
  | leftShift
  | leftControl
  | leftAlt
  | leftSuper
  | leftHyper
  | leftMeta
  | rightShift
  | rightControl
  | rightAlt
  | rightSuper
  | rightHyper
  | rightMeta
  | isoLevel3Shift
  | isoLevel5Shift
  deriving DecidableEq

/-- A key of the keyboard, or the character it types. -/
inductive Key where
  | char (c : Char)
  | enter
  | escape
  | backspace
  | tab
  | backTab
  | left
  | right
  | up
  | down
  | home
  | endKey
  | pageUp
  | pageDown
  | insert
  | delete
  | function (number : Nat)
  | null
  | capsLock
  | scrollLock
  | numLock
  | printScreen
  | pause
  | menu
  | keypadBegin
  | media (key : MediaKey)
  | modifier (key : ModifierKey)
  deriving DecidableEq

/-- The modifiers held with a key. -/
structure Modifiers where
  shift : Bool
  control : Bool
  alt : Bool
  superKey : Bool
  hyperKey : Bool
  metaKey : Bool
  deriving DecidableEq

namespace Modifiers

/-- No modifier is held. -/
def none : Modifiers := ⟨false, false, false, false, false, false⟩

/-- Control is held, and no other modifier. -/
def onlyControl : Modifiers := { none with control := true }

end Modifiers

end Dashboard
