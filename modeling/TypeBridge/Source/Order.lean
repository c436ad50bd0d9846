import Std.Data.ExtTreeMap
import TypeBridge.Source.Descriptor

/-!
# An order of descriptors

Descriptors over handles are compared by the numbers in them and then by the names, so that a registry
can find one without going through all its types. Numbers and names together give a form back
(`Form.ext_numbers_names`), so descriptors that compare as equal are the same.
-/

namespace TypeBridge

/-- The position of a type in a registry. -/
abbrev Handle := Nat

namespace Declared

def numbers (d : Declared Handle) : List (List Nat) :=
  [[d.arity], d.outer.toList, d.arguments, d.definition.toList]

def names (d : Declared Handle) : List String :=
  [d.namespaceName, d.name]

theorem ext_numbers_names {d e : Declared Handle} (hnumbers : d.numbers = e.numbers)
    (hnames : d.names = e.names) : d = e := by
  have toList_inj {o o' : Option Handle} (h : o.toList = o'.toList) : o = o' := by
    simpa only [Option.head?_toList] using congrArg List.head? h
  obtain ⟨_, _, outer, _, _, definition⟩ := d
  obtain ⟨_, _, outer', _, _, definition'⟩ := e
  simp only [numbers, names, List.cons.injEq, and_true] at hnumbers hnames
  obtain ⟨rfl, houter, rfl, hdefinition⟩ := hnumbers
  obtain ⟨rfl, rfl⟩ := hnames
  rw [toList_inj houter, toList_inj hdefinition]

end Declared

namespace Form

/-- The first number tells the forms apart. -/
def numbers : Form Handle → List (List Nat)
  | builtin _ => [[0]]
  | named d => [1] :: d.numbers
  | array e => [[2], [e]]
  | parameter _ => [[3]]
  | delegate d params result => [4] :: params :: [result] :: d.numbers
  | enumeration d => [5] :: d.numbers
  | record members => [[6], members.map (·.2)]
  | nullable inner => [[7], [inner]]

def names : Form Handle → List String
  | builtin b => [b.name]
  | named d | enumeration d | delegate d _ _ => d.names
  | parameter name => [name]
  | record members => members.map (·.1)
  | array _ | nullable _ => []

theorem ext_numbers_names {f g : Form Handle} (hnumbers : f.numbers = g.numbers)
    (hnames : f.names = g.names) : f = g := by
  cases f <;> cases g <;> simp [numbers] at hnumbers
  case builtin.builtin b b' =>
    have hb : b.name = b'.name := (List.cons.inj hnames).1
    have hsome := congrArg Builtin.ofName? hb
    rw [Builtin.ofName?_name, Builtin.ofName?_name] at hsome
    rw [Option.some.inj hsome]
  case named.named => rw [Declared.ext_numbers_names hnumbers hnames]
  case array.array => rw [hnumbers]
  case parameter.parameter => rw [(List.cons.inj hnames).1]
  case delegate.delegate =>
    obtain ⟨rfl, rfl, hd⟩ := hnumbers
    rw [Declared.ext_numbers_names hd hnames]
  case enumeration.enumeration => rw [Declared.ext_numbers_names hnumbers hnames]
  case record.record =>
    exact congrArg record ((List.zip_of_prod hnames hnumbers).trans (List.zip_of_prod rfl rfl).symm)
  case nullable.nullable => rw [hnumbers]

end Form

namespace Descriptor

/-- Numbers come before names, as they are compared faster. -/
def order : Descriptor Handle → Descriptor Handle → Ordering :=
  compareLex (compareOn (·.isValue)) (compareLex (compareOn (·.form.numbers)) (compareOn (·.form.names)))

instance : Ord (Descriptor Handle) := ⟨order⟩

instance : Std.TransOrd (Descriptor Handle) :=
  inferInstanceAs (Std.TransCmp (compareLex (compareOn fun d : Descriptor Handle => d.isValue)
    (compareLex (compareOn (·.form.numbers)) (compareOn (·.form.names)))))

instance : Std.LawfulEqOrd (Descriptor Handle) where
  eq_of_compare {d e} h := by
    have h : (compare d.isValue e.isValue).then
        ((compare d.form.numbers e.form.numbers).then (compare d.form.names e.form.names)) = .eq := h
    simp only [Ordering.then_eq_eq, Std.LawfulEqOrd.compare_eq_iff_eq] at h
    obtain ⟨hvalue, hnumbers, hnames⟩ := h
    exact congr (congrArg mk (Form.ext_numbers_names hnumbers hnames)) hvalue

end Descriptor
end TypeBridge
