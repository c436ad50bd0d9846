import TypeBridge.Proofs.CanonicalName
import TypeBridge.Proofs.RecordName

/-!
# Names that are paths

Names are put together before they are written: namespaces are lowercased, and the names around a type are
joined. When the names in the source are ASCII identifiers (`AsciiNames`), what is made of them is a path in
the target (`isPath_defaultName`), and so is every spelling that is fixed (`isPlain_of_standardSpelling?`).
-/

namespace TypeBridge

/-! ### Characters and texts -/

theorem isPathChar_of_isIdentifierChar {c : Char} (hc : isIdentifierChar c = true) :
    isPathChar c = true := by
  rw [isPathChar, hc, Bool.true_or]

theorem toNat_lt_of_isPathChar {c : Char} (hc : isPathChar c = true) : c.toNat < 128 := by
  have hupper : c.isUpper = true → c.toNat < 128 :=
    fun h => Nat.lt_of_le_of_lt (of_decide_eq_true h).2 (by decide)
  have hlower : c.isLower = true → c.toNat < 128 :=
    fun h => Nat.lt_of_le_of_lt (of_decide_eq_true (Bool.and_eq_true_iff.1 h).2) (by decide)
  have hdigit : c.isDigit = true → c.toNat < 128 :=
    fun h => Nat.lt_of_le_of_lt (Char.isDigit_iff_toNat.1 h).2 (by decide)
  have halphanum : c.isAlphanum = (c.isUpper || c.isLower || c.isDigit) := rfl
  simp only [isPathChar, isIdentifierChar, halphanum, Bool.or_eq_true, beq_iff_eq] at hc
  rcases hc with (((h | h) | h) | rfl) | rfl
  · exact hupper h
  · exact hlower h
  · exact hdigit h
  · decide
  · decide

theorem IsIdentifier.isPath {s : String} (hs : IsIdentifier s) : IsPath s :=
  ⟨hs.1, fun c hc => isPathChar_of_isIdentifierChar (hs.2 c hc)⟩

theorem IsIdentifier.append {s t : String} (hs : IsIdentifier s)
    (ht : ∀ c ∈ t.toList, isIdentifierChar c = true) : IsIdentifier (s ++ t) := by
  refine ⟨fun h => hs.1 (String.append_eq_empty_iff.1 h).1, fun c hc => ?_⟩
  rw [String.toList_append, List.mem_append] at hc
  exact hc.elim (hs.2 c) (ht c)

theorem IsIdentifier.intercalate {names : List String} (hne : names ≠ [])
    (hnames : ∀ name ∈ names, IsIdentifier name) : IsIdentifier ("_".intercalate names) := by
  induction names with
  | nil => exact absurd rfl hne
  | cons name names ih =>
    cases names with
    | nil => simpa using hnames
    | cons name' names =>
      have hrest := ih (List.cons_ne_nil _ _) fun n hn => hnames n (List.mem_cons_of_mem _ hn)
      have hlow : IsIdentifier "_" := by decide
      rw [String.intercalate_cons_cons]
      exact ((hnames name List.mem_cons_self).append hlow.2).append hrest.2

theorem isPath_of_isNamespace {namespaceName name : String} (hns : IsNamespace namespaceName)
    (hname : IsIdentifier name) : IsPath (namespaceName ++ "." ++ name) := by
  refine ⟨fun h => hname.1 (String.append_eq_empty_iff.1 h).2, fun c hc => ?_⟩
  rw [String.toList_append, String.toList_append, List.mem_append, List.mem_append] at hc
  rcases hc with (hc | hc) | hc
  · exact hns c hc
  · rw [List.mem_singleton.1 hc]
    rfl
  · exact isPathChar_of_isIdentifierChar (hname.2 c hc)

/-! ### Names that are made -/

namespace Text

/-- Path characters are ASCII, so there are few to look at. -/
theorem isPathChar_lowerSimple {c : Char} (hc : isPathChar c = true) :
    isPathChar (lowerSimple c) = true := by
  have hascii : ∀ n < 128, isPathChar (Char.ofNat n) = true →
      isPathChar (lowerSimple (Char.ofNat n)) = true := by
    decide +kernel
  have h := hascii c.toNat (toNat_lt_of_isPathChar hc)
  rw [Char.ofNat_toNat] at h
  exact h hc

theorem isPathChar_lowerFrom {casedBefore : Bool} {cs : List Char}
    (hcs : ∀ c ∈ cs, isPathChar c = true) : ∀ c ∈ lowerFrom casedBefore cs, isPathChar c = true := by
  induction cs generalizing casedBefore with
  | nil => exact fun c hc => nomatch hc
  | cons c cs ih =>
    intro c' hc'
    have hc := hcs c List.mem_cons_self
    -- the two letters with a mapping of their own belong to no path
    have hsigma : c ≠ 'Σ' := by
      rintro rfl
      cases hc
    have hdotted : c ≠ 'İ' := by
      rintro rfl
      cases hc
    rw [lowerFrom, if_neg hsigma, if_neg hdotted, List.mem_append, List.mem_singleton] at hc'
    rcases hc' with rfl | hc'
    · exact isPathChar_lowerSimple hc
    · exact ih (fun c hc => hcs c (List.mem_cons_of_mem _ hc)) c' hc'

theorem isNamespace_lowercase {s : String} (hs : IsNamespace s) : IsNamespace (lowercase s) := by
  intro c hc
  rw [toList_lowercase] at hc
  exact isPathChar_lowerFrom hs c hc

end Text

theorem isPath_defaultName {namespaceName name : String} (hns : IsNamespace namespaceName)
    (hname : IsIdentifier name) : IsPath (defaultName namespaceName name) := by
  unfold defaultName
  split_ifs
  · exact hname.isPath
  · exact isPath_of_isNamespace (Text.isNamespace_lowercase hns) hname

/-! ### Fixed spellings -/

def Spelling.IsPlain (s : Spelling) : Prop :=
  ∀ text, s = .written text → IsPath text

namespace Spelling
variable {P : String → Prop} {s : Spelling} {text fallback : String}

theorem forall_written (ht : P text) : ∀ text', written text = written text' → P text' := by
  rintro _ ⟨⟩
  exact ht

theorem textOr_of_forall (hs : ∀ text, s = .written text → P text) (hf : P fallback) :
    P (s.textOr fallback) := by
  cases s with
  | written text => exact hs text rfl
  | inferred => exact hf

theorem isPlain_inferred : inferred.IsPlain :=
  fun text h => by cases h

theorem isPlain_written (ht : IsPath text) : (written text).IsPlain :=
  forall_written ht

theorem IsPlain.textOr (hs : s.IsPlain) (hf : IsPath fallback) : IsPath (s.textOr fallback) :=
  textOr_of_forall hs hf

end Spelling

/-- All built-in types and standard containers but one have a name of the target itself. -/
theorem standardSpelling?_eq_some {name : String} {s : Spelling}
    (hs : standardSpelling? name = some s) :
    name = "System.Array" ∧ s = .inferred ∨
      ∃ text ∈ [Target.void, Target.bool, Target.dynamic, Target.string, Target.float, Target.int,
        Target.array, Target.list], s = .written text := by
  unfold standardSpelling? at hs
  split at hs <;> cases hs
  all_goals first
    | exact .inl ⟨rfl, rfl⟩
    | exact .inr ⟨_, by decide, rfl⟩

theorem isPlain_of_standardSpelling? {name : String} {s : Spelling}
    (hs : standardSpelling? name = some s) : s.IsPlain := by
  rcases standardSpelling?_eq_some hs with ⟨-, rfl⟩ | ⟨text, htext, rfl⟩
  · exact Spelling.isPlain_inferred
  · have hpath : ∀ text ∈ [Target.void, Target.bool, Target.dynamic, Target.string, Target.float,
        Target.int, Target.array, Target.list], IsPath text := by
      decide
    exact Spelling.isPlain_written (hpath text htext)

/-! ### Declared names -/

namespace Registry

/-- All names in the source are ASCII identifiers, and all namespaces are made of these and dots. The
members of record types may be named freely. -/
structure AsciiNames (r : Registry) : Prop where
  name : ∀ h d, r.declared? h = some d → IsIdentifier d.name
  namespaceName : ∀ h d, r.declared? h = some d → IsNamespace d.namespaceName
  parameter : ∀ h name, r.form? h = some (.parameter name) → IsIdentifier name

variable {r : Registry} {h : Handle} {d e : Declared Handle}

theorem exists_declared?_of_mem_enclosing (hr : r.WellFormed) (he : e ∈ r.enclosing h) :
    ∃ o, r.declared? o = some e := by
  induction h using Nat.strongRecOn with
  | ind h ih =>
    rcases (mem_enclosing_iff hr).1 he with hd | ⟨o, ho, he⟩
    · exact ⟨h, hd⟩
    · obtain ⟨d, hd, hdo⟩ := Option.bind_eq_some_iff.1 ho
      exact ih o (hr.outer_lt hd hdo) he

theorem Coherent.isIdentifier_declaredName (hr : r.Coherent) (hn : r.AsciiNames)
    (hd : r.declared? h = some d) :
    IsIdentifier (r.declaredName h).1 ∧ IsNamespace (r.declaredName h).2 := by
  rw [declaredName_of_declared? hd, hr.flatName?_eq hd, Option.getD_some]
  refine ⟨.intercalate ?_ fun name hname => ?_, hn.namespaceName h d hd⟩
  · obtain ⟨top, inner, hchain, -, -⟩ := hr.exists_outermost hd
    rw [hchain]
    exact List.cons_ne_nil _ _
  · obtain ⟨e, he, rfl⟩ := List.mem_map.1 hname
    obtain ⟨o, ho⟩ := exists_declared?_of_mem_enclosing hr.toWellFormed he
    exact hn.name o e ho

theorem isIdentifier_declaredName_of_builtin {b : Builtin} (hb : r.form? h = some (.builtin b)) :
    IsIdentifier (r.declaredName h).1 ∧ IsNamespace (r.declaredName h).2 := by
  obtain ⟨⟨form, isValue⟩, ht, rfl⟩ := form?_eq_some hb
  have hname : r.declaredName h = (b.metadataName, b.namespaceName) := by rw [declaredName, ht]
  rw [hname]
  cases b <;> decide

end Registry
end TypeBridge
