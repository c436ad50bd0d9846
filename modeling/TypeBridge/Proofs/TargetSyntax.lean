import Mathlib.Data.List.Basic
import Mathlib.Tactic.Common
import TypeBridge.Target.Spelling

/-!
# The syntax of target types

A target type is written as a path, as a path with arguments in angle brackets, or as two or more
types with arrows between them in parentheses. `TypeExpr` is what such a text says, and `TypeExpr.text`
the text.

No text says two things (`TypeExpr.text_injective`). Reading from the left, a path ends before the
first character that belongs to no path; what comes next is an opening bracket or the end of the type.
So a type is told by its text even with more text after it, as long as that cannot be read as a part
of the type (`Stops`).
-/

namespace TypeBridge

def isIdentifierChar (c : Char) : Bool :=
  c.isAlphanum || c == '_'

def isPathChar (c : Char) : Bool :=
  isIdentifierChar c || c == '.'

def IsIdentifier (s : String) : Prop :=
  s ≠ "" ∧ ∀ c ∈ s.toList, isIdentifierChar c = true

/-- A possibly empty text of identifiers and dots. -/
def IsNamespace (s : String) : Prop :=
  ∀ c ∈ s.toList, isPathChar c = true

def IsPath (s : String) : Prop :=
  s ≠ "" ∧ ∀ c ∈ s.toList, isPathChar c = true

-- looking at the characters of the text, and not at all there are
instance (s : String) : Decidable (IsIdentifier s) := @instDecidableAnd _ _ _ (List.decidableBAll ..)
instance (s : String) : Decidable (IsNamespace s) := List.decidableBAll ..
instance (s : String) : Decidable (IsPath s) := @instDecidableAnd _ _ _ (List.decidableBAll ..)

@[ext]
structure Path where
  text : String
  isPath : IsPath text

inductive TypeExpr
  | path (p : Path)
  /-- A generic type with its arguments. -/
  | applied (head : Path) (first : TypeExpr) (rest : List TypeExpr)
  /-- A function type: parameters, and the result at the end. -/
  | function (first second : TypeExpr) (rest : List TypeExpr)

namespace TypeExpr

mutual

def chars : TypeExpr → List Char
  | path p => p.text.toList
  | applied head first rest =>
    head.text.toList ++ '<' :: (first.chars ++ (charsAfter ", ".toList rest ++ ['>']))
  | function first second rest =>
    '(' :: (first.chars ++
      (" -> ".toList ++ (second.chars ++ charsAfter " -> ".toList rest) ++ [')']))

/-- Each type with the separator before it. -/
def charsAfter (separator : List Char) : List TypeExpr → List Char
  | [] => []
  | e :: es => separator ++ (e.chars ++ charsAfter separator es)

end

def text (e : TypeExpr) : String :=
  String.ofList e.chars

theorem induction {P : TypeExpr → Prop} (path : ∀ p, P (path p))
    (applied : ∀ head first rest, P first → (∀ e ∈ rest, P e) → P (applied head first rest))
    (function : ∀ first second rest, P first → (∀ e ∈ second :: rest, P e) →
      P (function first second rest)) (e : TypeExpr) : P e :=
  @TypeExpr.rec P (fun es => ∀ e ∈ es, P e) path applied
    (fun first second rest hfirst hsecond hrest =>
      function first second rest hfirst (List.forall_mem_cons.2 ⟨hsecond, hrest⟩))
    (fun _ he => nomatch he) (fun _ _ hfirst hrest => List.forall_mem_cons.2 ⟨hfirst, hrest⟩) e

theorem chars_function (first second : TypeExpr) (rest : List TypeExpr) :
    (function first second rest).chars =
      '(' :: (first.chars ++ (charsAfter " -> ".toList (second :: rest) ++ [')'])) := by
  rw [chars, charsAfter]

/-! ### Texts in the target language -/

theorem toList_text (e : TypeExpr) : e.text.toList = e.chars :=
  String.toList_ofList

theorem text_path (p : Path) : (path p).text = p.text :=
  String.toList_injective <| by rw [toList_text, chars]

theorem charsAfter_eq_intercalate (separator : String) (first : TypeExpr) (rest : List TypeExpr) :
    first.chars ++ charsAfter separator.toList rest =
      (separator.intercalate ((first :: rest).map text)).toList := by
  induction rest generalizing first with
  | nil => simp [charsAfter, toList_text]
  | cons second rest ih =>
    rw [charsAfter, ih, List.map_cons, List.map_cons, List.map_cons, String.intercalate_cons_cons]
    simp [toList_text]

theorem text_applied (head : Path) (first : TypeExpr) (rest : List TypeExpr) :
    (applied head first rest).text = Target.applied head.text ((first :: rest).map text) := by
  apply String.toList_injective
  rw [toList_text, chars, ← List.append_assoc, charsAfter_eq_intercalate]
  simp [Target.applied]

theorem text_function (first second : TypeExpr) (rest : List TypeExpr) :
    (function first second rest).text =
      "(" ++ " -> ".intercalate ((first :: second :: rest).map text) ++ ")" := by
  apply String.toList_injective
  rw [toList_text, chars_function, ← List.append_assoc, charsAfter_eq_intercalate]
  simp

/-! ### No text says two things -/

/-- The character cannot be read as a part of the type before it. -/
def EndsType (c : Char) : Prop :=
  isPathChar c = false ∧ c ≠ '<'

instance (c : Char) : Decidable (EndsType c) := inferInstanceAs (Decidable (_ ∧ _))

/-- Text after a type that is not read as a part of it. -/
def Stops (after : List Char) : Prop :=
  ∀ c ∈ after.head?, EndsType c

/-- The type, and the text after it, are told by the whole text. -/
def Determined (e : TypeExpr) : Prop :=
  ∀ e' after after', Stops after → Stops after' →
    e.chars ++ after = e'.chars ++ after' → e = e' ∧ after = after'

variable {after after' : List Char} {separator : List Char} {s close : Char}

theorem path_append_injective {p p' : Path} (hr : ∀ c ∈ after.head?, isPathChar c = false)
    (hr' : ∀ c ∈ after'.head?, isPathChar c = false)
    (h : p.text.toList ++ after = p'.text.toList ++ after') : p = p' ∧ after = after' := by
  have hread : ∀ {p : Path} {after : List Char}, (∀ c ∈ after.head?, isPathChar c = false) →
      (p.text.toList ++ after).takeWhile isPathChar = p.text.toList := by
    intro p after hr
    rw [List.takeWhile_append_of_pos p.isPath.2]
    cases after with
    | nil => simp
    | cons c after => simp [hr c rfl]
  have hp : p.text.toList = p'.text.toList := by rw [← hread hr, h, hread hr']
  rw [hp] at h
  exact ⟨Path.ext (String.toList_inj.1 hp), List.append_cancel_left h⟩

theorem path_append_ne (p : Path) (hs : isPathChar s = false) :
    p.text.toList ++ after ≠ s :: after' := by
  intro h
  cases hp : p.text.toList with
  | nil => exact p.isPath.1 (String.toList_eq_nil_iff.1 hp)
  | cons c cs =>
    rw [hp, List.cons_append] at h
    have hc := p.isPath.2 c (by rw [hp]; exact List.mem_cons_self)
    rw [(List.cons.inj h).1, hs] at hc
    cases hc

/-- After a type of a list come the separator or the closing bracket, and both stop it. -/
theorem stops_charsAfter (hs : EndsType s) (hc : EndsType close) (es : List TypeExpr) :
    Stops (charsAfter (s :: separator) es ++ close :: after) := by
  intro c hmem
  cases es with
  | nil =>
    obtain rfl := Option.some.inj hmem
    exact hc
  | cons e es =>
    obtain rfl := Option.some.inj hmem
    exact hs

theorem charsAfter_append_injective {es es' : List TypeExpr} (he : ∀ e ∈ es, e.Determined)
    (hs : EndsType s) (hc : EndsType close) (hne : s ≠ close)
    (h : charsAfter (s :: separator) es ++ close :: after =
      charsAfter (s :: separator) es' ++ close :: after') : es = es' ∧ after = after' := by
  induction es generalizing es' with
  | nil =>
    cases es' with
    | nil => exact ⟨rfl, (List.cons.inj h).2⟩
    | cons e' es' => exact absurd (List.cons.inj h).1.symm hne
  | cons e es ih =>
    cases es' with
    | nil => exact absurd (List.cons.inj h).1 hne
    | cons e' es' =>
      rw [charsAfter, charsAfter] at h
      simp only [List.append_assoc, List.append_cancel_left_eq] at h
      obtain ⟨rfl, hafter⟩ := he e List.mem_cons_self e' _ _ (stops_charsAfter hs hc es)
        (stops_charsAfter hs hc es') h
      obtain ⟨rfl, rfl⟩ := ih (fun e he' => he e (List.mem_cons_of_mem _ he')) hafter
      exact ⟨rfl, rfl⟩

theorem list_append_injective {first first' : TypeExpr} {rest rest' : List TypeExpr}
    (hfirst : first.Determined) (hrest : ∀ e ∈ rest, e.Determined)
    (hs : EndsType s) (hc : EndsType close) (hne : s ≠ close)
    (h : first.chars ++ (charsAfter (s :: separator) rest ++ close :: after) =
      first'.chars ++ (charsAfter (s :: separator) rest' ++ close :: after')) :
    first = first' ∧ rest = rest' ∧ after = after' := by
  obtain ⟨rfl, hafter⟩ :=
    hfirst first' _ _ (stops_charsAfter hs hc rest) (stops_charsAfter hs hc rest') h
  exact ⟨rfl, charsAfter_append_injective hrest hs hc hne hafter⟩

theorem endsPath_bracket (after : List Char) :
    ∀ c ∈ ('<' :: after).head?, isPathChar c = false := by
  intro c hc
  obtain rfl := Option.some.inj hc
  rfl

theorem not_stops_bracket (after : List Char) : ¬ Stops ('<' :: after) :=
  fun h => (h '<' rfl).2 rfl

theorem Stops.endsPath (h : Stops after) : ∀ c ∈ after.head?, isPathChar c = false :=
  fun c hc => (h c hc).1

theorem determined (e : TypeExpr) : e.Determined := by
  induction e using TypeExpr.induction with
  | path p =>
    intro e' after after' hr hr' h
    cases e' with
    | path p' =>
      obtain ⟨rfl, rfl⟩ := path_append_injective hr.endsPath hr'.endsPath h
      exact ⟨rfl, rfl⟩
    | applied head' first' rest' =>
      simp only [chars, List.append_assoc, List.cons_append] at h
      obtain ⟨-, rfl⟩ := path_append_injective hr.endsPath (endsPath_bracket _) h
      exact absurd hr (not_stops_bracket _)
    | function first' second' rest' =>
      exact absurd h (path_append_ne p rfl)
  | applied head first rest hfirst hrest =>
    intro e' after after' _ hr' h
    cases e' with
    | path p' =>
      simp only [chars, List.append_assoc, List.cons_append] at h
      obtain ⟨-, rfl⟩ := path_append_injective (endsPath_bracket _) hr'.endsPath h
      exact absurd hr' (not_stops_bracket _)
    | applied head' first' rest' =>
      simp only [chars, List.append_assoc, List.cons_append, List.nil_append] at h
      obtain ⟨rfl, hlist⟩ := path_append_injective (endsPath_bracket _) (endsPath_bracket _) h
      obtain ⟨rfl, rfl, rfl⟩ := list_append_injective (s := ',') hfirst hrest (by decide)
        (by decide) (by decide) (List.cons.inj hlist).2
      exact ⟨rfl, rfl⟩
    | function first' second' rest' =>
      simp only [chars, List.append_assoc, List.cons_append] at h
      exact absurd h (path_append_ne head rfl)
  | function first second rest hfirst hrest =>
    intro e' after after' _ _ h
    cases e' with
    | path p' => exact absurd h.symm (path_append_ne p' rfl)
    | applied head' first' rest' =>
      simp only [chars, List.append_assoc, List.cons_append] at h
      exact absurd h.symm (path_append_ne head' rfl)
    | function first' second' rest' =>
      simp only [chars_function, List.append_assoc, List.cons_append, List.nil_append] at h
      obtain ⟨rfl, hlist, rfl⟩ := list_append_injective (s := ' ') hfirst hrest (by decide)
        (by decide) (by decide) (List.cons.inj h).2
      obtain ⟨rfl, rfl⟩ := List.cons.inj hlist
      exact ⟨rfl, rfl⟩

theorem text_injective {e e' : TypeExpr} (h : e.text = e'.text) : e = e' := by
  have hnil : Stops [] := fun c hc => nomatch hc
  refine (e.determined e' [] [] hnil hnil ?_).1
  rw [List.append_nil, List.append_nil, ← toList_text, h, toList_text]

end TypeExpr
end TypeBridge
