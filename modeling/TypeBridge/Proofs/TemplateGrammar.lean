import Mathlib.Data.List.Chain
import Mathlib.Data.List.Forall2
import Mathlib.Data.List.Induction
import Mathlib.Tactic.Common
import TypeBridge.Override.Template

/-!
# The grammar of templates

A template is written by writing its segments one after the other (`Template.Writes`). Only positions
have several spellings, with a plus sign and zeros in front. Each text that is written so comes from one
normal template, and `parse` finds it (`Template.parse_eq_ok_iff`): `Scan.Reads` says what has been read
at every place of the text, and is kept by each step. So printing and reading are inverse to each other
up to the spelling of positions, and the texts that are read are the concatenations of brace-free text
and placeholders (`Template.parse_exact`).
-/

namespace TypeBridge

def BraceFree (text : String) : Prop :=
  ∀ c ∈ text.toList, c ≠ '{' ∧ c ≠ '}'

namespace Segment

def isLiteral : Segment → Bool
  | literal _ => true
  | _ => false

theorem exists_literal {s : Segment} (h : s.isLiteral = true) : ∃ text, s = literal text := by
  cases s with
  | literal text => exact ⟨text, rfl⟩
  | _ => cases h

def IsNormal : Segment → Prop
  | literal text => text ≠ "" ∧ BraceFree text
  | argument index => index < indexLimit
  | _ => True

/-- What may stand before the digits of a position. -/
def IsSign (sign : List Char) : Prop :=
  sign = [] ∨ sign = ['+']

def IsDigits (digits : List Char) : Prop :=
  digits ≠ [] ∧ ∀ c ∈ digits, c.isDigit = true

/-- The text stands for the segment in a template: it is its source or, for an argument, has a sign
and zeros before the position. -/
inductive Writes : Segment → String → Prop
  | source (s : Segment) : Writes s s.source
  | padded (index zeros : Nat) {sign : List Char} (hsign : IsSign sign) :
      Writes (argument index) ("\x7b" ++
        String.ofList (sign ++ (List.replicate zeros '0' ++ Nat.toDigits 10 index)) ++ "\x7d")

/-- What may stand between braces. -/
inductive IsPlaceholder : String → Prop
  | word {word : String}
      (h : word ∈ ["name", "name_lower", "namespace", "namespace_lower", "args"]) :
      IsPlaceholder word
  | position {sign digits : List Char} (hsign : IsSign sign) (hdigits : IsDigits digits)
      (hle : Nat.ofDigitChars 10 digits 0 ≤ 18446744073709551615) :
      IsPlaceholder (String.ofList (sign ++ digits))

/-! ### Positions -/

section Positions

variable {sign digits word : List Char} {index : Nat}

theorem IsDigits.eq_replicate_append (h : IsDigits digits) : ∃ zeros, digits =
    List.replicate zeros '0' ++ Nat.toDigits 10 (Nat.ofDigitChars 10 digits 0) := by
  obtain ⟨hne, hdigits⟩ := h
  induction digits using List.reverseRecOn with
  | nil => exact absurd rfl hne
  | append_singleton digits c ih =>
    obtain ⟨hlow, hhigh⟩ := Char.isDigit_iff_toNat.1 (hdigits c (by simp))
    have h0 : '0'.toNat = 48 := rfl
    have h9 : '9'.toNat = 57 := rfl
    have hvalue : c.toNat - '0'.toNat < 10 := by omega
    have hlast : Nat.toDigits 10 (c.toNat - '0'.toNat) = [c] := by
      rw [Nat.toDigits_of_lt_base hvalue]
      refine congrArg (fun c => [c]) (Char.toNat_inj.1 ?_)
      rw [Nat.toNat_digitChar_of_lt_ten hvalue]
      omega
    rw [Nat.ofDigitChars_append, Nat.ofDigitChars_cons, Nat.ofDigitChars_nil]
    rcases eq_or_ne digits [] with rfl | hne'
    · exact ⟨0, by simpa using hlast.symm⟩
    obtain ⟨zeros, hz⟩ := ih hne' fun c hc => hdigits c (by simp [hc])
    rcases Nat.eq_zero_or_pos (Nat.ofDigitChars 10 digits 0) with hzero | hpos
    · -- the digits so far are zeros, and the zero that they are written with is now one in front
      rw [hzero, Nat.toDigits_zero] at hz
      refine ⟨zeros + 1, ?_⟩
      rw [hzero, Nat.mul_zero, Nat.zero_add, hlast, hz, List.replicate_succ']
    · refine ⟨zeros, ?_⟩
      rw [← Nat.toDigits_append_toDigits (by decide) hpos hvalue, hlast, ← List.append_assoc, ← hz]

theorem isDigits_padded (zeros index : Nat) :
    IsDigits (List.replicate zeros '0' ++ Nat.toDigits 10 index) := by
  refine ⟨by simp [Nat.toDigits_ne_nil], fun c hc => ?_⟩
  rcases List.mem_append.1 hc with hc | hc
  · rw [List.eq_of_mem_replicate hc]
    rfl
  · exact Nat.isDigit_of_mem_toDigits (by decide) (by decide) hc

theorem ofDigitChars_padded (zeros index : Nat) :
    Nat.ofDigitChars 10 (List.replicate zeros '0' ++ Nat.toDigits 10 index) 0 = index := by
  rw [Nat.ofDigitChars_append, Nat.ofDigitChars_replicate_zero, Nat.mul_zero,
    Nat.ofDigitChars_ten_toDigits]

/-- The position that digits without a sign stand for. -/
def ofDigits? (digits : List Char) : Option Nat :=
  if digits.isEmpty || !digits.all Char.isDigit then none
  else if Nat.ofDigitChars 10 digits 0 < indexLimit then some (Nat.ofDigitChars 10 digits 0)
  else none

theorem ofDigits?_eq_some_iff : ofDigits? digits = some index ↔
    IsDigits digits ∧ index < indexLimit ∧ Nat.ofDigitChars 10 digits 0 = index := by
  have hdigits : (digits.isEmpty || !digits.all Char.isDigit) = true ↔ ¬ IsDigits digits := by
    simp [IsDigits, or_iff_not_imp_left]
  unfold ofDigits?
  constructor
  · intro h
    split_ifs at h with hbad hlt
    obtain rfl := Option.some.inj h
    exact ⟨by_contra fun hn => hbad (hdigits.2 hn), hlt, rfl⟩
  · rintro ⟨hd, hlt, rfl⟩
    rw [if_neg fun hbad => hdigits.1 hbad hd, if_pos hlt]

theorem index?_append (hsign : IsSign sign) (h : ofDigits? digits = some index) :
    index? (sign ++ digits) = some index := by
  rcases hsign with rfl | rfl
  · unfold index?
    split
    next rest hplus =>
      obtain rfl : digits = '+' :: rest := hplus
      obtain ⟨⟨-, hdigits⟩, -⟩ := ofDigits?_eq_some_iff.1 h
      exact absurd (hdigits '+' List.mem_cons_self) (by decide)
    next => exact h
  · exact h

theorem exists_of_index? (h : index? word = some index) :
    ∃ sign digits, IsSign sign ∧ word = sign ++ digits ∧ ofDigits? digits = some index := by
  unfold index? at h
  split at h
  next rest => exact ⟨['+'], rest, .inr rfl, rfl, h⟩
  next => exact ⟨[], word, .inl rfl, rfl, h⟩

end Positions

/-! ### Placeholders -/

section Placeholders

variable {word piece : String} {s : Segment}

theorem ofWord?_of_ofDigits? {sign digits : List Char} {index : Nat} (hsign : IsSign sign)
    (h : ofDigits? digits = some index) :
    ofWord? (String.ofList (sign ++ digits)) = some (argument index) := by
  have hindex : index? (String.ofList (sign ++ digits)).toList = some index := by
    rw [String.toList_ofList]
    exact index?_append hsign h
  unfold ofWord?
  split
  case h_6 => rw [hindex]; rfl
  all_goals simp_all [index?]

theorem ofWord?_padded (zeros : Nat) {index : Nat} {sign : List Char} (hsign : IsSign sign)
    (hlt : index < indexLimit) :
    ofWord? (String.ofList (sign ++ (List.replicate zeros '0' ++ Nat.toDigits 10 index))) =
      some (argument index) :=
  ofWord?_of_ofDigits? hsign
    (ofDigits?_eq_some_iff.2 ⟨isDigits_padded zeros index, hlt, ofDigitChars_padded zeros index⟩)

theorem ofWord?_cases (h : ofWord? word = some s) :
    word ∈ ["name", "name_lower", "namespace", "namespace_lower", "args"] ∧ s.IsNormal ∧
        s.isLiteral = false ∧ s.source = "\x7b" ++ word ++ "\x7d" ∨
      ∃ index sign digits, s = argument index ∧ word = String.ofList (sign ++ digits) ∧
        IsSign sign ∧ ofDigits? digits = some index := by
  unfold ofWord? at h
  split at h
  case h_6 =>
    obtain ⟨index, hi, rfl⟩ := Option.map_eq_some_iff.1 h
    obtain ⟨sign, digits, hsign, hw, hdigits⟩ := exists_of_index? hi
    refine .inr ⟨index, sign, digits, rfl, ?_, hsign, hdigits⟩
    rw [← hw, String.ofList_toList]
  all_goals
    obtain rfl := Option.some.inj h
    exact .inl ⟨by simp, trivial, rfl, rfl⟩

theorem isPlaceholder_iff : IsPlaceholder word ↔ ∃ s, ofWord? word = some s := by
  constructor
  · rintro (h | ⟨hsign, hdigits, hle⟩)
    · simp only [List.mem_cons, List.not_mem_nil, or_false] at h
      rcases h with rfl | rfl | rfl | rfl | rfl <;> exact ⟨_, rfl⟩
    · have hread := ofDigits?_eq_some_iff.2 ⟨hdigits, Nat.lt_succ_of_le hle, rfl⟩
      exact ⟨_, ofWord?_of_ofDigits? hsign hread⟩
  · rintro ⟨s, h⟩
    rcases ofWord?_cases h with ⟨hword, -⟩ | ⟨index, sign, digits, -, rfl, hsign, hdigits⟩
    · exact .word hword
    · obtain ⟨hd, hlt, rfl⟩ := ofDigits?_eq_some_iff.1 hdigits
      exact .position hsign hd (Nat.le_of_lt_succ hlt)

theorem IsPlaceholder.braceFree (h : IsPlaceholder word) : BraceFree word := by
  cases h with
  | word h =>
    simp only [List.mem_cons, List.not_mem_nil, or_false] at h
    rcases h with rfl | rfl | rfl | rfl | rfl <;> simp [BraceFree]
  | position hsign hdigits =>
    intro c hc
    rw [String.toList_ofList, List.mem_append] at hc
    rcases hc with hc | hc
    · rcases hsign with rfl | rfl
      · cases hc
      · rw [List.mem_singleton.1 hc]
        decide
    · have hdigit := hdigits.2 c hc
      constructor <;> rintro rfl <;> cases hdigit

theorem of_ofWord? (h : ofWord? word = some s) :
    s.isLiteral = false ∧ s.IsNormal ∧ s.Writes ("\x7b" ++ word ++ "\x7d") := by
  rcases ofWord?_cases h with ⟨-, hn, hl, hsource⟩ | ⟨index, sign, digits, rfl, rfl, hsign, hdigits⟩
  · exact ⟨hl, hn, hsource ▸ .source s⟩
  · obtain ⟨hd, hlt, rfl⟩ := ofDigits?_eq_some_iff.1 hdigits
    obtain ⟨zeros, hz⟩ := hd.eq_replicate_append
    refine ⟨rfl, hlt, ?_⟩
    nth_rewrite 2 [hz]
    exact .padded _ zeros hsign

theorem Writes.exists_word (hw : s.Writes piece) (hn : s.IsNormal) (hl : s.isLiteral = false) :
    ∃ word, piece = "\x7b" ++ word ++ "\x7d" ∧ ofWord? word = some s := by
  cases hw with
  | padded index zeros hsign => exact ⟨_, rfl, ofWord?_padded zeros hsign hn⟩
  | source =>
    cases s with
    | literal text => cases hl
    | name => exact ⟨"name", rfl, rfl⟩
    | nameLower => exact ⟨"name_lower", rfl, rfl⟩
    | namespaceName => exact ⟨"namespace", rfl, rfl⟩
    | namespaceLower => exact ⟨"namespace_lower", rfl, rfl⟩
    | arguments => exact ⟨"args", rfl, rfl⟩
    | argument index => exact ⟨_, rfl, ofWord?_padded 0 (.inl rfl) hn⟩

end Placeholders

end Segment

namespace Template

/-- Literals are whole: none is empty, none stands next to another, and the braces are not in them.
Positions are in range. -/
structure IsNormal (t : Template) : Prop where
  segments : ∀ s ∈ t.segments, s.IsNormal
  apart : t.segments.IsChain fun s s' => s.isLiteral = false ∨ s'.isLiteral = false

/-- The text is written by writing the segments one after the other. -/
def Writes (t : Template) (source : String) : Prop :=
  ∃ pieces, List.Forall₂ Segment.Writes t.segments pieces ∧ source = String.join pieces

theorem writes_source (t : Template) : t.Writes t.source := by
  refine ⟨t.segments.map Segment.source, ?_, rfl⟩
  rw [List.forall₂_map_right_iff]
  exact List.forall₂_same.2 fun s _ => .source s

theorem Writes.concat {segments : List Segment} {source piece : String} {s : Segment}
    (hw : Writes ⟨segments⟩ source) (hs : s.Writes piece) :
    Writes ⟨segments ++ [s]⟩ (source ++ piece) := by
  obtain ⟨pieces, hpieces, rfl⟩ := hw
  refine ⟨pieces ++ [piece], List.rel_append hpieces (.cons hs .nil), ?_⟩
  rw [String.join_append, String.join_cons, String.join_nil, String.append_empty]

theorem IsNormal.concat {segments : List Segment} {s : Segment} (hn : IsNormal ⟨segments⟩)
    (hs : s.IsNormal)
    (hlast : ∀ s' ∈ segments.getLast?, s'.isLiteral = false ∨ s.isLiteral = false) :
    IsNormal ⟨segments ++ [s]⟩ := by
  refine ⟨fun s' hs' => ?_, hn.apart.append (.singleton s) fun s' hs' s'' hs'' => ?_⟩
  · rcases List.mem_append.1 hs' with hs' | hs'
    · exact hn.segments s' hs'
    · exact List.mem_singleton.1 hs' ▸ hs
  · obtain rfl : s = s'' := Option.some.inj hs''
    exact hlast s' hs'

/-- Brace-free text, or a placeholder in braces. -/
inductive IsPiece : String → Prop
  | text {text : String} (h : BraceFree text) : IsPiece text
  | placeholder {word : String} (h : Segment.IsPlaceholder word) :
      IsPiece ("\x7b" ++ word ++ "\x7d")

/-! ### Reading -/

namespace Scan

variable {s s' : Scan} {text word source : String} {segment : Segment}

theorem withLiteral_of_text_eq (h : s.text = "") : s.withLiteral = s.segments := by
  simp [withLiteral, h]

theorem toList_withLiteral (h : s.text ≠ "") :
    s.withLiteral.toList = s.segments.toList ++ [.literal s.text] := by
  simp [withLiteral, h]

theorem foldlM_step_text (h : BraceFree text) :
    text.toList.foldlM step s = .ok { s with text := s.text ++ text } := by
  have hlist : ∀ (cs : List Char) (s : Scan), (∀ c ∈ cs, c ≠ '{' ∧ c ≠ '}') →
      cs.foldlM step s = .ok { s with text := s.text ++ String.ofList cs } := by
    intro cs
    induction cs with
    | nil =>
      intro s _
      rw [String.ofList_nil, String.append_empty]
      rfl
    | cons c cs ih =>
      intro s hcs
      obtain ⟨hopen, hclose⟩ := hcs c List.mem_cons_self
      have hstep : step s c = .ok { s with text := s.text.push c } := by
        simp [step, hopen, hclose]
      rw [List.foldlM_cons, hstep]
      have htext : s.text.push c ++ String.ofList cs = s.text ++ String.ofList (c :: cs) :=
        String.toList_injective (by simp)
      rw [← htext]
      exact ih _ fun c hc => hcs c (List.mem_cons_of_mem _ hc)
  rw [hlist _ s h, String.ofList_toList]

theorem foldlM_step_braces (hout : s.inBraces = false) (hw : Segment.ofWord? word = some segment) :
    ("\x7b" ++ word ++ "\x7d").toList.foldlM step s =
      .ok { segments := s.withLiteral.push segment } := by
  have hfree : BraceFree word := (Segment.isPlaceholder_iff.2 ⟨segment, hw⟩).braceFree
  have hopen : step s '{' = .ok { segments := s.withLiteral, inBraces := true } := by
    simp [step, hout]
  have hclose : step { segments := s.withLiteral, inBraces := true, text := word } '}' =
      .ok { segments := s.withLiteral.push segment } := by
    simp [step, hw]
  have hsplit : ("\x7b" ++ word ++ "\x7d").toList = '{' :: (word.toList ++ ['}']) := by
    simp
  rw [hsplit, List.foldlM_cons, hopen]
  show List.foldlM step _ (word.toList ++ ['}']) = _
  rw [List.foldlM_append, foldlM_step_text hfree]
  show List.foldlM step { segments := s.withLiteral, inBraces := true, text := "" ++ word } ['}'] = _
  rw [String.empty_append, List.foldlM_cons, hclose]
  rfl

/-- What is written with segments is read as these segments, after those read before. A literal would
be joined to one that is being read, so there is none of the two. -/
theorem foldlM_step_pieces {segments : List Segment} {pieces : List String}
    (hn : IsNormal ⟨segments⟩) (hw : List.Forall₂ Segment.Writes segments pieces)
    (hout : s.inBraces = false)
    (hapart : s.text ≠ "" → ∀ segment ∈ segments.head?, segment.isLiteral = false) :
    ∃ s', (String.join pieces).toList.foldlM step s = .ok s' ∧ s'.inBraces = false ∧
      s'.withLiteral.toList = s.withLiteral.toList ++ segments := by
  induction hw generalizing s with
  | nil =>
    rw [String.join_nil, List.append_nil]
    exact ⟨s, rfl, hout, rfl⟩
  | @cons segment piece segments pieces hpiece _ ih =>
    have hrest : IsNormal ⟨segments⟩ :=
      ⟨fun s' hs' => hn.segments s' (List.mem_cons_of_mem _ hs'), hn.apart.tail⟩
    have hsegment := hn.segments segment List.mem_cons_self
    obtain ⟨s₁, hread, hout₁, hapart₁, hsegments⟩ : ∃ s₁, piece.toList.foldlM step s = .ok s₁ ∧
        s₁.inBraces = false ∧
        (s₁.text ≠ "" → ∀ next ∈ segments.head?, next.isLiteral = false) ∧
        s₁.withLiteral.toList = s.withLiteral.toList ++ [segment] := by
      cases hl : segment.isLiteral with
      | true =>
        obtain ⟨text, rfl⟩ := Segment.exists_literal hl
        obtain rfl : piece = text := by cases hpiece; rfl
        have ht : s.text = "" := by
          by_contra ht
          cases hapart ht _ rfl
        refine ⟨_, foldlM_step_text hsegment.2, hout, fun _ next hnext => ?_, ?_⟩
        · exact ((List.isChain_cons.1 hn.apart).1 next hnext).resolve_left nofun
        · rw [ht, String.empty_append, toList_withLiteral hsegment.1, withLiteral_of_text_eq ht]
      | false =>
        obtain ⟨word, rfl, hword⟩ := hpiece.exists_word hsegment hl
        refine ⟨_, foldlM_step_braces hout hword, rfl, fun h => absurd rfl h, ?_⟩
        rw [withLiteral_of_text_eq rfl, Array.toList_push]
    obtain ⟨s', hrun, hout', hsegments'⟩ := ih hrest hout₁ hapart₁
    refine ⟨s', ?_, hout', ?_⟩
    · rw [String.join_cons, String.toList_append, List.foldlM_append, hread]
      exact hrun
    · rw [hsegments', hsegments, List.append_assoc, List.singleton_append]

/-- What has been read of a source: the segments are complete, and the text is what comes after them. -/
structure Reads (source : String) (s : Scan) : Prop where
  normal : IsNormal ⟨s.segments.toList⟩
  free : BraceFree s.text
  /-- A literal is taken when it ends, so there is none just before the text that is being read. -/
  apart : s.inBraces = false → ∀ segment ∈ s.segments.toList.getLast?, segment.isLiteral = false
  written : ∃ before, Writes ⟨s.segments.toList⟩ before ∧
    source = before ++ (if s.inBraces then "\x7b" else "") ++ s.text

theorem reads_empty : Reads "" {} where
  normal := ⟨nofun, .nil⟩
  free := nofun
  apart _ := nofun
  written := ⟨"", ⟨[], .nil, rfl⟩, rfl⟩

theorem Reads.withLiteral (h : Reads source s) (hout : s.inBraces = false) :
    IsNormal ⟨s.withLiteral.toList⟩ ∧ Writes ⟨s.withLiteral.toList⟩ source := by
  obtain ⟨before, hbefore, rfl⟩ := h.written
  by_cases ht : s.text = ""
  · rw [withLiteral_of_text_eq ht, hout, ht]
    refine ⟨h.normal, ?_⟩
    simpa using hbefore
  · rw [toList_withLiteral ht]
    refine ⟨h.normal.concat ⟨ht, h.free⟩ fun s' hs' => .inl (h.apart hout s' hs'), ?_⟩
    have hwritten := hbefore.concat (.source (.literal s.text))
    simpa [hout, Segment.source] using hwritten

theorem Reads.push {c : Char} (h : Reads source s) (hc : c ≠ '{' ∧ c ≠ '}') :
    Reads (source.push c) { s with text := s.text.push c } := by
  obtain ⟨before, hbefore, rfl⟩ := h.written
  refine ⟨h.normal, fun d hd => ?_, h.apart, before, hbefore, String.toList_injective (by simp)⟩
  rw [String.toList_push, List.mem_append, List.mem_singleton] at hd
  exact hd.elim (h.free d) fun hd => hd ▸ hc

theorem Reads.step {c : Char} (h : Reads source s) (hstep : s.step c = .ok s') :
    Reads (source.push c) s' := by
  unfold Scan.step at hstep
  split_ifs at hstep with hin hopen hclose hopen hclose
  · split at hstep
    next segment hw =>
      -- the word in the braces is complete
      cases hstep
      obtain ⟨before, hbefore, rfl⟩ := h.written
      obtain ⟨hl, hn, hwrites⟩ := Segment.of_ofWord? hw
      have hnormal := h.normal.concat hn fun _ _ => .inr hl
      have hwritten := hbefore.concat hwrites
      rw [← Array.toList_push] at hnormal hwritten
      refine ⟨hnormal, nofun, fun _ s' hs' => ?_, _, hwritten, String.toList_injective ?_⟩
      · rw [Array.toList_push, List.getLast?_concat] at hs'
        exact Option.some.inj hs' ▸ hl
      · simp [hin, hclose]
    next => cases hstep
  · cases hstep
    exact h.push ⟨hopen, hclose⟩
  · -- the literal before the braces is complete
    cases hstep
    obtain ⟨hnormal, hwritten⟩ := h.withLiteral (Bool.eq_false_iff.2 hin)
    refine ⟨hnormal, nofun, nofun, source, hwritten, String.toList_injective ?_⟩
    simp [hopen]
  · cases hstep
    exact h.push ⟨hopen, hclose⟩

theorem Reads.foldlM {cs : List Char} (h : Reads source s) (hrun : cs.foldlM Scan.step s = .ok s') :
    Reads (source ++ String.ofList cs) s' := by
  induction cs generalizing source s with
  | nil =>
    obtain rfl := Except.ok.inj hrun
    simpa using h
  | cons c cs ih =>
    rw [List.foldlM_cons] at hrun
    cases hstep : s.step c with
    | error e =>
      rw [hstep] at hrun
      cases hrun
    | ok s₁ =>
      rw [hstep] at hrun
      have htext : source.push c ++ String.ofList cs = source ++ String.ofList (c :: cs) :=
        String.toList_injective (by simp)
      rw [← htext]
      exact ih (h.step hstep) hrun

theorem exists_foldlM_step_join {pieces : List String} (h : ∀ piece ∈ pieces, IsPiece piece)
    (hout : s.inBraces = false) : ∃ s',
      (String.join pieces).toList.foldlM step s = .ok s' ∧ s'.inBraces = false := by
  induction pieces generalizing s with
  | nil => exact ⟨s, rfl, hout⟩
  | cons piece pieces ih =>
    obtain ⟨hpiece, hpieces⟩ := List.forall_mem_cons.1 h
    obtain ⟨s₁, hread, hout₁⟩ : ∃ s₁, piece.toList.foldlM step s = .ok s₁ ∧ s₁.inBraces = false := by
      cases hpiece with
      | text hfree => exact ⟨_, foldlM_step_text hfree, hout⟩
      | placeholder hword =>
        obtain ⟨segment, hsegment⟩ := Segment.isPlaceholder_iff.1 hword
        exact ⟨_, foldlM_step_braces hout hsegment, rfl⟩
    obtain ⟨s', hrest, hout'⟩ := ih hpieces hout₁
    refine ⟨s', ?_, hout'⟩
    rw [String.join_cons, String.toList_append, List.foldlM_append, hread]
    exact hrest

end Scan

variable {t : Template} {source : String}

theorem parse_of_writes (hn : t.IsNormal) (hw : t.Writes source) : parse source = .ok t := by
  obtain ⟨pieces, hpieces, rfl⟩ := hw
  obtain ⟨s, hread, hout, hsegments⟩ :=
    Scan.foldlM_step_pieces (s := {}) hn hpieces rfl fun h => absurd rfl h
  rw [parse, hread]
  show s.finish = .ok t
  rw [Scan.finish, if_neg (by simp [hout]), hsegments]
  rfl

theorem exists_scan_of_parse (h : parse source = .ok t) :
    ∃ s, source.toList.foldlM Scan.step {} = .ok s ∧ s.inBraces = false ∧
      t = ⟨s.withLiteral.toList⟩ := by
  unfold parse at h
  cases hread : source.toList.foldlM Scan.step {} with
  | error e =>
    rw [hread] at h
    cases h
  | ok s =>
    rw [hread] at h
    have hfinish : s.finish = .ok t := h
    unfold Scan.finish at hfinish
    split_ifs at hfinish with hin
    exact ⟨s, rfl, Bool.eq_false_iff.2 hin, (Except.ok.inj hfinish).symm⟩

/-- Parsing finds the one normal template that the source writes, if there is one. -/
theorem parse_eq_ok_iff : parse source = .ok t ↔ t.IsNormal ∧ t.Writes source := by
  refine ⟨fun h => ?_, fun ⟨hn, hw⟩ => parse_of_writes hn hw⟩
  obtain ⟨s, hread, hout, rfl⟩ := exists_scan_of_parse h
  have hreads := (Scan.reads_empty.foldlM hread).withLiteral hout
  rwa [String.empty_append, String.ofList_toList] at hreads

theorem isPiece_of_writes {segment : Segment} {piece : String} (hw : segment.Writes piece)
    (hn : segment.IsNormal) : IsPiece piece := by
  cases hl : segment.isLiteral with
  | true =>
    obtain ⟨text, rfl⟩ := Segment.exists_literal hl
    cases hw
    exact .text hn.2
  | false =>
    obtain ⟨word, rfl, hword⟩ := hw.exists_word hn hl
    exact .placeholder (Segment.isPlaceholder_iff.2 ⟨segment, hword⟩)

theorem forall_isPiece {segments : List Segment} {pieces : List String}
    (hn : ∀ s ∈ segments, s.IsNormal) (hw : List.Forall₂ Segment.Writes segments pieces) :
    ∀ piece ∈ pieces, IsPiece piece := by
  induction hw with
  | nil => exact nofun
  | cons hpiece _ ih =>
    obtain ⟨hsegment, hsegments⟩ := List.forall_mem_cons.1 hn
    exact List.forall_mem_cons.2 ⟨isPiece_of_writes hpiece hsegment, ih hsegments⟩

theorem exists_parse_of_pieces {pieces : List String} (h : ∀ piece ∈ pieces, IsPiece piece) :
    ∃ t, parse (String.join pieces) = .ok t := by
  obtain ⟨s, hread, hout⟩ := Scan.exists_foldlM_step_join h (s := {}) rfl
  refine ⟨⟨s.withLiteral.toList⟩, ?_⟩
  rw [parse, hread]
  exact if_neg (by simp [hout])

/-- Parsing gives normal templates, and the source back from them up to the spelling of positions; it
inverts printing for all normal templates; and it succeeds just for what is made of brace-free text and
of placeholders in braces. -/
theorem parse_exact :
    (∀ source t, parse source = .ok t → t.IsNormal ∧ t.Writes source) ∧
    (∀ t : Template, t.IsNormal → parse t.source = .ok t) ∧
    ∀ source, (∃ t, parse source = .ok t) ↔
      ∃ pieces : List String, (∀ piece ∈ pieces, IsPiece piece) ∧ source = String.join pieces := by
  refine ⟨fun source t => parse_eq_ok_iff.1, fun t hn => parse_of_writes hn t.writes_source,
    fun source => ⟨?_, ?_⟩⟩
  · rintro ⟨t, ht⟩
    obtain ⟨hn, pieces, hpieces, rfl⟩ := parse_eq_ok_iff.1 ht
    exact ⟨pieces, forall_isPiece hn.segments hpieces, rfl⟩
  · rintro ⟨pieces, hpieces, rfl⟩
    exact exists_parse_of_pieces hpieces

/-- A position with a sign and zeros, after text that is not ASCII. -/
theorem parse_exact_padded :
    let t : Template := ⟨[.literal "Ö<", .argument 7, .name]⟩
    parse "Ö<\x7b+007\x7d\x7bname\x7d" = .ok t ∧ t.IsNormal ∧
      t.Writes "Ö<\x7b+007\x7d\x7bname\x7d" ∧ parse "Ö<\x7b7\x7d\x7bname\x7d" = .ok t := by
  intro t
  obtain ⟨hread, hprint, -⟩ := parse_exact
  have h : parse "Ö<\x7b+007\x7d\x7bname\x7d" = .ok t := by rfl
  obtain ⟨hn, hw⟩ := hread _ t h
  exact ⟨h, hn, hw, hprint t hn⟩

end Template
end TypeBridge
