import Std.Data.ExtTreeMap
import TypeBridge.Source.Registry
import TypeBridge.Target.Spelling

/-! # Memos

The spellings found so far, by handle. A memo is only meaningful beside the registry that gave the
handles. -/

namespace TypeBridge

abbrev Memo := Std.ExtTreeMap Handle Spelling

namespace Memo

def empty : Memo := ∅

/-- What the memo holds for a type, or else what `compute` finds, which is then held. A computation
that fails leaves nothing. -/
@[inline]
def remember {m : Type → Type} [Monad m] (h : Handle) (compute : StateT Memo m Spelling) :
    StateT Memo m Spelling := do
  match (← get : Memo)[h]? with
  | some s => return s
  | none =>
    let s ← compute
    modify fun memo : Memo => memo.insert h s
    return s

variable {m : Type → Type} [Monad m] [LawfulMonad m] {h : Handle} {compute : StateT Memo m Spelling}
  {memo : Memo}

theorem run_remember_of_some {s : Spelling} (hs : memo[h]? = some s) :
    (remember h compute).run memo = pure (s, memo) := by
  simp [remember, hs]

theorem run_remember_of_none (hs : memo[h]? = none) :
    (remember h compute).run memo =
      (fun found => (found.1, found.2.insert h found.1)) <$> compute.run memo := by
  simp [remember, hs]

end Memo
end TypeBridge
