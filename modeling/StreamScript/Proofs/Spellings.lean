import StreamScript.Token.Basic

/-! The words and the characters that are tokens of a kind of their own, written out. Reading goes by these lists: a
word that is not among them is an identifier, and no other character is a token by itself. -/

namespace StreamScript.Source

def symbols : List (Kind × Char) :=
  [(.plus, '+'), (.minus, '-'), (.star, '*'), (.slash, '/'), (.percent, '%'), (.equal, '='), (.semicolon, ';'),
  (.dot, '.'), (.leftParenthesis, '('), (.rightParenthesis, ')')]

def keywords : List (Kind × String) :=
  [(.printWord, "print"), (.ifWord, "if"), (.elseWord, "else"), (.elseIfWord, "elseif"), (.forWord, "for"),
  (.whileWord, "while"), (.boolean, "true"), (.boolean, "false")]

/-- The kind of a word that does not take in what follows it. -/
def wordKind (name : String) : Kind := ((keywords.find? (·.2 = name)).map Prod.fst).getD .identifier

theorem ofSymbol?_eq_some_iff {kind : Kind} {c : Char} : Kind.ofSymbol? c = some kind ↔ (kind, c) ∈ symbols := by
  constructor
  · fun_cases Kind.ofSymbol? c <;> rintro ⟨⟩ <;> decide
  · have listed : ∀ entry ∈ symbols, Kind.ofSymbol? entry.2 = some entry.1 := by decide
    exact listed (kind, c)

theorem ofSymbol?_eq_none_iff {c : Char} : Kind.ofSymbol? c = none ↔ c ∉ symbols.map Prod.snd := by
  simp [Option.eq_none_iff_forall_ne_some, ofSymbol?_eq_some_iff]

theorem wordKind_of_mem {kind : Kind} {name : String} (listed : (kind, name) ∈ keywords) : wordKind name = kind := by
  have found : ∀ entry ∈ keywords, wordKind entry.2 = entry.1 := by decide +kernel
  exact found (kind, name) listed

theorem wordKind_of_notMem {name : String} (unlisted : name ∉ keywords.map Prod.snd) :
    wordKind name = .identifier := by
  have absent : keywords.find? (·.2 = name) = none := by
    rw [List.find?_eq_none]
    intro entry member same
    exact unlisted (List.mem_map.mpr ⟨entry, member, of_decide_eq_true same⟩)
  rw [wordKind, absent]
  rfl

theorem ofWord_eq_wordKind (name : String) : Kind.ofWord name = wordKind name := by
  by_cases listed : name ∈ keywords.map Prod.snd
  · have agrees : ∀ word ∈ keywords.map Prod.snd, Kind.ofWord word = wordKind word := by decide +kernel
    exact agrees name listed
  · rw [wordKind_of_notMem listed]
    fun_cases Kind.ofWord name with
    | case9 => rfl
    | _ => exact absurd listed (by decide)

/-- The kinds that a word can have, unless it takes in what follows it. -/
def wordKinds : List Kind := .identifier :: keywords.map Prod.fst

theorem wordKind_mem_wordKinds (name : String) : wordKind name ∈ wordKinds := by
  by_cases listed : name ∈ keywords.map Prod.snd
  · obtain ⟨entry, member, rfl⟩ := List.mem_map.mp listed
    rw [wordKind_of_mem member]
    exact List.mem_cons_of_mem _ (List.mem_map_of_mem member)
  · rw [wordKind_of_notMem listed]
    exact List.mem_cons_self ..

theorem wordKind_ne {kind : Kind} (other : kind ∉ wordKinds) (name : String) : wordKind name ≠ kind := by
  rintro rfl
  exact other (wordKind_mem_wordKinds name)

end StreamScript.Source
