import TypeBridge.Text.CaseTable
import TypeBridge.Text.CharRange

/-! # Lowercasing

Full lowercase of a text, the same in every locale. Two letters need more than the simple mapping:
a capital `İ` becomes two characters, and a capital `Σ` becomes `ς` at the end of a word and `σ`
elsewhere. -/

namespace TypeBridge.Text

def isCased (c : Char) : Bool := inRanges CaseTable.cased c

def isCaseIgnorable (c : Char) : Bool := inRanges CaseTable.caseIgnorable c

def lowerSimple (c : Char) : Char :=
  let n := c.toNat
  match CaseTable.lowercaseRuns.find? fun r =>
    r.first ≤ n && n ≤ r.last && (n - r.first) % r.step == 0 with
  | some r => Char.ofNat (n + r.shift).toNat
  | none => c

/-- Whether the first character that does not belong to the word's inside has letter case. -/
def casedAhead (cs : List Char) : Bool :=
  match cs.dropWhile isCaseIgnorable with
  | [] => false
  | c :: _ => isCased c

/-- Lowercase of what follows a text; `casedBefore` says whether that text ends in a letter with
case, marks aside. -/
def lowerFrom (casedBefore : Bool) : List Char → List Char
  | [] => []
  | c :: cs =>
    let low :=
      if c = 'Σ' then [if casedBefore && !casedAhead cs then 'ς' else 'σ']
      else if c = 'İ' then ['i', '\u0307']
      else [lowerSimple c]
    low ++ lowerFrom (if isCaseIgnorable c then casedBefore else isCased c) cs

def lowercase (s : String) : String :=
  String.ofList (lowerFrom false s.toList)

theorem toList_lowercase (s : String) : (lowercase s).toList = lowerFrom false s.toList :=
  String.toList_ofList

end TypeBridge.Text
