import Mathlib.Order.Bounds.Defs
import TypeBridge.Proofs.Declaration
import TypeBridge.Proofs.Depth

/-!
# Depth is the longest chain

A registry finds the depth of a type once, from the depths of the types that it refers to, and never
looks at it again. `Form.RefersTo` says, form by form, what a type refers to, and `chainLengths` how far
one can get from it by references. The depth that is held is the greatest of these lengths
(`isGreatest_chainLengths`). As references lead back, it is at most the handle, so that neither is too
large for 32 bits in a registry of up to `2 ^ 32` types: there `depthWord`, which adds in 32 bits, finds
the same depths.
-/

namespace TypeBridge

/-- The form refers to the type itself, and not by way of another. -/
inductive Form.RefersTo {ρ : Type} : Form ρ → ρ → Prop
  | element (c : ρ) : RefersTo (.array c) c
  | inner (c : ρ) : RefersTo (.nullable c) c
  | argument {form : Form ρ} {d : Declared ρ} {c : ρ} (hd : form.declared? = some d)
      (hc : c ∈ d.arguments) : RefersTo form c
  | outer {form : Form ρ} {d : Declared ρ} {c : ρ} (hd : form.declared? = some d)
      (hc : d.outer = some c) : RefersTo form c
  | definition {form : Form ρ} {d : Declared ρ} {c : ρ} (hd : form.declared? = some d)
      (hc : d.definition = some c) : RefersTo form c
  | parameter {d : Declared ρ} {params : List ρ} {result c : ρ} (hc : c ∈ params) :
      RefersTo (.delegate d params result) c
  | result {d : Declared ρ} {params : List ρ} (c : ρ) : RefersTo (.delegate d params c) c
  | member {members : List (String × ρ)} {m : String × ρ} (hm : m ∈ members) :
      RefersTo (.record members) m.2

namespace Form
variable {ρ : Type} {form : Form ρ} {d : Declared ρ} {c : ρ}

theorem refersTo_of_declared? (hd : form.declared? = some d) (hc : c ∈ d.references) :
    form.RefersTo c := by
  rcases Declared.mem_references_iff.1 hc with hc | hc | hc
  · exact .argument hd hc
  · exact .outer hd hc
  · exact .definition hd hc

theorem mem_references_iff : c ∈ form.references ↔ form.RefersTo c := by
  constructor
  · intro hc
    cases form with
    | builtin | parameter => cases hc
    | named | enumeration => exact refersTo_of_declared? rfl hc
    | array | nullable =>
      obtain rfl := List.mem_singleton.1 hc
      constructor
    | delegate d params result =>
      simp only [references, List.mem_append, List.mem_singleton] at hc
      rcases hc with (hc | hc) | rfl
      · exact refersTo_of_declared? rfl hc
      · exact .parameter hc
      · exact .result _
    | record members =>
      obtain ⟨m, hm, rfl⟩ := List.mem_map.1 hc
      exact .member hm
  · intro hc
    cases hc with
    | element | inner => exact List.mem_singleton_self _
    | argument hd hc => exact references_of_declared? hd (Declared.mem_references_iff.2 (.inl hc))
    | outer hd hc => exact references_of_declared? hd (Declared.mem_references_of_outer hc)
    | definition hd hc => exact references_of_declared? hd (Declared.mem_references_of_definition hc)
    | parameter hc => simp [references, hc]
    | result => simp [references]
    | member hm => exact List.mem_map_of_mem hm

end Form

namespace Registry
variable {r : Registry} {h c : Handle} {n : Nat} {t : Descriptor Handle}

def Links (r : Registry) (h c : Handle) : Prop :=
  ∃ form, r.form? h = some form ∧ form.RefersTo c

theorem links_iff : r.Links h c ↔ r.Refers h c := by
  constructor
  · rintro ⟨form, hf, hc⟩
    exact refers_of_form? hf (Form.mem_references_iff.2 hc)
  · rintro ⟨t, ht, hc⟩
    exact ⟨t.form, form?_of_get? ht, Form.mem_references_iff.1 hc⟩

/-- The lengths of the chains of direct references that start at a type. -/
def chainLengths (r : Registry) (h : Handle) : Set Nat :=
  {n | ∃ chain : List Handle, List.IsChain r.Links (h :: chain) ∧ chain.length = n}

/-! ### The longest chain -/

theorem foldl_max_eq {α : Type} (f : α → Nat) (xs : List α) (start : Nat) :
    xs.foldl (fun depth x => max depth (f x)) start = start ∨
      ∃ x ∈ xs, xs.foldl (fun depth x => max depth (f x)) start = f x := by
  induction xs generalizing start with
  | nil => exact .inl rfl
  | cons x xs ih =>
    rcases ih (max start (f x)) with hstart | ⟨y, hy, hmax⟩
    · rcases Nat.le_total (f x) start with hle | hle
      · exact .inl (hstart.trans (Nat.max_eq_left hle))
      · exact .inr ⟨x, List.mem_cons_self, hstart.trans (Nat.max_eq_right hle)⟩
    · exact .inr ⟨y, List.mem_cons_of_mem x hy, hmax⟩

theorem WellFormed.exists_links (hr : r.WellFormed) (hn : r.depth? h = some (n + 1)) :
    ∃ c, r.Links h c ∧ r.depth? c = some n := by
  obtain ⟨t, ht⟩ := exists_get?_of_lt (hr.lt_size_of_depth? hn)
  have hdepth : r.depthOf t = n + 1 := Option.some.inj ((hr.depth ht).symm.trans hn)
  rcases foldl_max_eq (fun c => (r.depth? c).getD 0 + 1) t.references 0 with hzero | ⟨c, hc, hmax⟩
  · exact absurd (hdepth.symm.trans hzero) (Nat.succ_ne_zero n)
  · obtain ⟨k, hk⟩ := hr.exists_depth?_of_lt (hr.references_lt_size ht c hc)
    have hsucc : n + 1 = k + 1 := by rw [← hdepth, depthOf, hmax, hk, Option.getD_some]
    exact ⟨c, links_iff.2 ⟨t, ht, hc⟩, by rw [hk, Nat.succ.inj hsucc]⟩

theorem WellFormed.depth_mem_chainLengths (hr : r.WellFormed) (hn : r.depth? h = some n) :
    n ∈ r.chainLengths h := by
  induction n generalizing h with
  | zero => exact ⟨[], .singleton h, rfl⟩
  | succ n ih =>
    obtain ⟨c, hc, hn⟩ := hr.exists_links hn
    obtain ⟨chain, hchain, hlength⟩ := ih hn
    exact ⟨c :: chain, List.isChain_cons_cons.2 ⟨hc, hchain⟩, congrArg (· + 1) hlength⟩

theorem WellFormed.length_le_depth (hr : r.WellFormed) {chain : List Handle}
    (hchain : List.IsChain r.Links (h :: chain)) (hn : r.depth? h = some n) : chain.length ≤ n := by
  induction chain generalizing h n with
  | nil => exact Nat.zero_le n
  | cons c chain ih =>
    obtain ⟨hc, hchain⟩ := List.isChain_cons_cons.1 hchain
    obtain ⟨k, hk, hlt⟩ := (links_iff.1 hc).exists_depth?_lt hr hn
    exact Nat.lt_of_le_of_lt (ih hchain hk) hlt

theorem WellFormed.isGreatest_chainLengths (hr : r.WellFormed) (hn : r.depth? h = some n) :
    IsGreatest (r.chainLengths h) n := by
  refine ⟨hr.depth_mem_chainLengths hn, ?_⟩
  rintro _ ⟨chain, hchain, rfl⟩
  exact hr.length_le_depth hchain hn

/-- Every reference leads back by one handle at least. -/
theorem WellFormed.depth_le (hr : r.WellFormed) (hn : r.depth? h = some n) : n ≤ h := by
  induction n generalizing h with
  | zero => exact Nat.zero_le h
  | succ n ih =>
    obtain ⟨c, hc, hn⟩ := hr.exists_links hn
    exact Nat.lt_of_le_of_lt (ih hn) ((links_iff.1 hc).lt hr)

/-! ### Words -/

/-- The depth of a type, where depths are words of 32 bits and a sum that is too large for a word
begins again at zero. -/
def depthWord (r : Registry) : Handle → UInt32 :=
  r.fold 0 fun _ t earlier => t.references.foldl (fun depth c => max depth (earlier c + 1)) 0

theorem WellFormed.depthWord_of_get? (hr : r.WellFormed) (ht : r.get? h = some t) :
    r.depthWord h = t.references.foldl (fun depth c => max depth (r.depthWord c + 1)) 0 := by
  rw [depthWord, fold_of_get? ht]
  refine List.foldl_ext _ _ _ fun depth c hc => ?_
  exact congrArg (max depth <| · + 1) (if_pos (hr.references_lt ht c hc))

theorem toNat_foldl_max {α : Type} (f : α → UInt32) (xs : List α) (start : UInt32) :
    (xs.foldl (fun depth x => max depth (f x)) start).toNat =
      xs.foldl (fun depth x => max depth (f x).toNat) start.toNat := by
  induction xs generalizing start with
  | nil => rfl
  | cons x xs ih => rw [List.foldl_cons, List.foldl_cons, ih, UInt32.toNat_max]

/-- One more than the depth of a reference is still a word, as it is at most the handle. -/
theorem WellFormed.depth_succ_lt (hr : r.WellFormed) (hsize : r.size ≤ UInt32.size)
    (hc : r.Refers h c) (hn : r.depth? c = some n) : n + 1 < UInt32.size := by
  have hsucc : n + 1 ≤ h := Nat.lt_of_le_of_lt (hr.depth_le hn) (hc.lt hr)
  obtain ⟨t, ht, -⟩ := hc
  exact Nat.lt_of_le_of_lt hsucc (Nat.lt_of_lt_of_le (get?_eq_some_lt ht) hsize)

theorem WellFormed.toNat_depthWord (hr : r.WellFormed) (hsize : r.size ≤ UInt32.size)
    (hn : r.depth? h = some n) : (r.depthWord h).toNat = n := by
  induction h using Nat.strongRecOn generalizing n with
  | ind h ih =>
    obtain ⟨t, ht⟩ := exists_get?_of_lt (hr.lt_size_of_depth? hn)
    have hdepth : n = r.depthOf t := Option.some.inj (hn.symm.trans (hr.depth ht))
    rw [hr.depthWord_of_get? ht, toNat_foldl_max, hdepth, depthOf, UInt32.toNat_zero]
    refine List.foldl_ext _ _ _ fun depth c hc => ?_
    obtain ⟨k, hk⟩ := hr.exists_depth?_of_lt (hr.references_lt_size ht c hc)
    have hword := ih c (hr.references_lt ht c hc) hk
    have hlt : k + 1 < UInt32.size := hr.depth_succ_lt hsize ⟨t, ht, hc⟩ hk
    rw [hk, Option.getD_some, UInt32.toNat_add, hword, UInt32.toNat_one, Nat.mod_eq_of_lt hlt]

/-- The depth of a type is the length of the longest chain of direct references that starts there, and
stays so whatever is constructed later. It is at most the handle. So up to `2 ^ 32` types, words of 32
bits hold every handle and every depth, and no sum on the way to a depth is too large for a word. -/
theorem depth_is_longest_chain (hr : r.Reachable) (hh : h < r.size) :
    ∃ n, r.depth? h = some n ∧ IsGreatest (r.chainLengths h) n ∧ n ≤ h ∧
      (∀ later, (r.afterAll later).depth? h = some n) ∧
      (r.size ≤ UInt32.size → (UInt32.ofNat h).toNat = h ∧ (r.depthWord h).toNat = n ∧
        ∀ c, r.Links h c → (r.depthWord c).toNat + 1 < UInt32.size) := by
  have hwf := hr.wellFormed
  obtain ⟨n, hn⟩ := hwf.exists_depth?_of_lt hh
  refine ⟨n, hn, hwf.isGreatest_chainLengths hn, hwf.depth_le hn, fun later => ?_, fun hsize => ?_⟩
  · exact (afterAll_grows hwf later).1.depth?_of_some hn
  · refine ⟨?_, hwf.toNat_depthWord hsize hn, fun c hc => ?_⟩
    · exact UInt32.toNat_ofNat_of_lt' (Nat.lt_of_lt_of_le hh hsize)
    · have hrefers := links_iff.1 hc
      obtain ⟨k, hk, -⟩ := hrefers.exists_depth?_lt hwf hn
      rw [hwf.toNat_depthWord hsize hk]
      exact hwf.depth_succ_lt hsize hrefers hk

/-- An array of a type inside a bound one: by way of the bound type, or of the definition of the type
inside, three references lead to a type that refers to no other. -/
theorem depth_is_longest_chain_nested :
    let r := ofConstructions [.builtin .int32, .generic "Lib" "Box" 1 false, .instantiate 1 [0],
      .nested 2 "Item" 0 true, .array 4]
    5 < r.size ∧ IsGreatest (r.chainLengths 5) 3 ∧ (r.depthWord 5).toNat = 3 ∧
      (r.afterAll [.nullable 5, .array 7, .array 5]).depth? 5 = some 3 := by
  intro r
  have hh : 5 < r.size := by decide +kernel
  have hsize : r.size ≤ UInt32.size := by decide +kernel
  have hdepth : r.depth? 5 = some 3 := by decide +kernel
  obtain ⟨n, hn, hchain, -, hlater, hwords⟩ := depth_is_longest_chain (h := 5) ⟨_, rfl⟩ hh
  obtain rfl : 3 = n := Option.some.inj (hdepth.symm.trans hn)
  exact ⟨hh, hchain, (hwords hsize).2.1, hlater _⟩

end Registry
end TypeBridge
