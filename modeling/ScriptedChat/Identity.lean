import ScriptedChat.Uuid

/-!
Numbers that name things: the states of a script, end users and operators, and the address of
a participant, which is a bot together with an end user.
-/
namespace ScriptedChat

/-- The number of a block in a script. -/
abbrev State := UInt32

/-- The state that ends a script. It is no block. -/
def finished : State := 0

/-- An end user or an operator. -/
abbrev UserId := Int64

/-- A bot and an end user that talks to it. -/
structure Address where
  bot : Uuid
  user : UserId
  deriving DecidableEq, Inhabited

namespace Address

/-- By bot, then by user. -/
instance : Ord Address := ⟨compareLex (compareOn bot) (compareOn user)⟩

instance : Std.TransOrd Address :=
  inferInstanceAs (Std.TransCmp (compareLex (compareOn bot) (compareOn user)))

instance : Std.LawfulEqOrd Address where
  compare_self {a} := by
    show compareLex (compareOn bot) (compareOn user) a a = .eq
    simp [compareLex, compareOn]
  eq_of_compare {a b} h := by
    have h : compareLex (compareOn bot) (compareOn user) a b = .eq := h
    simp only [compareLex, compareOn, Ordering.then_eq_eq] at h
    cases a; cases b
    simp_all

end Address

end ScriptedChat
