import StreamScript.Text.Escape

/-! Escaping puts any text on one line and loses nothing. What an escaped text never does is as important to a
reader as what it means: it has no line break or tab in it, and a quote only behind its backslash. The texts that
escaping writes are the canonical ones, and only these come back when they are read and written again. -/

namespace StreamScript.Text

/-- Read from the left, the text is made of ordinary characters and of pairs that stand for a character. -/
inductive Canonical : List Char → Prop where
  | nil : Canonical []
  | ordinary {c : Char} {rest : List Char} (allowed : c ∉ ['\\', '\n', '\r', '\t', '"']) (later : Canonical rest) :
      Canonical (c :: rest)
  | pair {c : Char} {rest : List Char} (known : c ∈ ['\\', 'n', 'r', 't', '"']) (later : Canonical rest) :
      Canonical ('\\' :: c :: rest)

theorem unescapeChars_cons {c : Char} (rest : List Char) (ordinary : c ≠ '\\') :
    unescapeChars (c :: rest) = c :: unescapeChars rest := by
  rw [unescapeChars]
  intro _ _ backslash
  exact absurd backslash ordinary

theorem unescapeChars_escapeChar (c : Char) (rest : List Char) :
    unescapeChars (escapeChar c ++ rest) = c :: unescapeChars rest := by
  fun_cases escapeChar c with
  | case1 | case2 | case3 | case4 | case5 => simp [unescapeChars, unescapeChar]
  | case6 c ordinary => exact unescapeChars_cons rest ordinary

theorem unescapeChars_escapeChars (text : List Char) : unescapeChars (escapeChars text) = text := by
  induction text with
  | nil => rfl
  | cons c rest ih =>
    have first := unescapeChars_escapeChar c (escapeChars rest)
    rw [ih] at first
    simpa only [escapeChars, List.flatMap_cons] using first

theorem canonical_escapeChar (c : Char) {rest : List Char} (later : Canonical rest) :
    Canonical (escapeChar c ++ rest) := by
  fun_cases escapeChar c with
  | case1 | case2 | case3 | case4 | case5 => exact .pair (by decide) later
  | case6 c backslash newline carriageReturn tab quote =>
    exact .ordinary (by simpa using ⟨backslash, newline, carriageReturn, tab, quote⟩) later

theorem canonical_escapeChars (text : List Char) : Canonical (escapeChars text) := by
  induction text with
  | nil => exact .nil
  | cons c rest ih =>
    rw [escapeChars, List.flatMap_cons]
    exact canonical_escapeChar c ih

namespace Canonical

variable {text : List Char}

theorem not_mem (canonical : Canonical text) {c : Char} (control : c ∈ ['\n', '\r', '\t']) : c ∉ text := by
  induction canonical with
  | nil => simp
  | ordinary allowed _ ih => grind
  | pair known _ ih => grind

/-- What stands in front of a quote is canonical up to the backslash of its pair. -/
theorem before_quote (canonical : Canonical text) {before after : List Char}
    (split : text = before ++ '"' :: after) : ∃ front, before = front ++ ['\\'] ∧ Canonical front := by
  induction canonical generalizing before with
  | nil => simp at split
  | @ordinary c rest allowed _ ih =>
    cases before with
    | nil =>
      obtain ⟨rfl, _⟩ := List.cons.inj split
      simp at allowed
    | cons first before =>
      obtain ⟨rfl, later⟩ := List.cons.inj split
      obtain ⟨front, rfl, canonical⟩ := ih later
      exact ⟨c :: front, rfl, .ordinary allowed canonical⟩
  | @pair c rest known _ ih =>
    match before with
    | [] => cases split
    | ['\\'] => exact ⟨[], rfl, .nil⟩
    | first :: second :: before =>
      obtain ⟨rfl, second⟩ := List.cons.inj split
      obtain ⟨rfl, later⟩ := List.cons.inj second
      obtain ⟨front, rfl, canonical⟩ := ih later
      exact ⟨'\\' :: c :: front, rfl, .pair known canonical⟩

theorem escapeChars_unescapeChars (canonical : Canonical text) : escapeChars (unescapeChars text) = text := by
  induction canonical with
  | nil => rfl
  | @ordinary c rest allowed _ ih =>
    simp only [List.mem_cons, List.not_mem_nil, or_false, not_or] at allowed
    obtain ⟨backslash, newline, carriageReturn, tab, quote⟩ := allowed
    have form : escapeChar c = [c] := escapeChar.eq_6 c backslash newline carriageReturn tab quote
    rw [unescapeChars_cons rest backslash, escapeChars, List.flatMap_cons, form]
    exact congrArg (c :: ·) ih
  | @pair c rest known _ ih =>
    simp only [List.mem_cons, List.not_mem_nil, or_false] at known
    rcases known with rfl | rfl | rfl | rfl | rfl <;>
      simpa [unescapeChars, unescapeChar, escapeChars, escapeChar] using ih

end Canonical

theorem newline_not_mem_escapeChars (text : List Char) : '\n' ∉ escapeChars text :=
  (canonical_escapeChars text).not_mem (by simp)

/-- The form of a quote begins with a backslash, so a text that begins with a quote was not escaped. -/
theorem head?_escapeChars_ne_quote (text : List Char) : (escapeChars text).head? ≠ some '"' := by
  intro quoted
  obtain ⟨after, split⟩ := List.head?_eq_some_iff.mp quoted
  have opening : escapeChars text = [] ++ '"' :: after := split
  obtain ⟨front, empty, _⟩ := (canonical_escapeChars text).before_quote opening
  simp at empty

/-- Reading undoes writing for every text, and writing undoes reading exactly for the canonical ones. A written text
holds no line break and no tab, and a quote only as the second character of a pair. -/
theorem escape_inverse :
    (∀ text, unescape (escape text) = text ∧
      (∀ c ∈ ['\n', '\r', '\t'], c ∉ (escape text).toList) ∧
      ∀ before after, (escape text).toList = before ++ '"' :: after →
        ∃ front, before = front ++ ['\\'] ∧ Canonical front) ∧
    ∀ text, escape (unescape text) = text ↔ Canonical text.toList := by
  refine ⟨?_, ?_⟩
  · intro text
    have written := canonical_escapeChars text.toList
    simp only [unescape, escape, String.toList_ofList]
    refine ⟨?_, fun c control => written.not_mem control, fun before after split => written.before_quote split⟩
    rw [unescapeChars_escapeChars, String.ofList_toList]
  · intro text
    have asLists : escape (unescape text) = text ↔ escapeChars (unescapeChars text.toList) = text.toList := by
      rw [← String.toList_inj]
      simp [escape, unescape]
    rw [asLists]
    refine ⟨?_, Canonical.escapeChars_unescapeChars⟩
    intro same
    rw [← same]
    exact canonical_escapeChars _

/-- A backslash and a quote are written as two pairs, and the quote belongs to the second. -/
theorem escape_inverse_quote :
    (escape "\\\"").toList = ['\\', '\\', '\\'] ++ '"' :: [] ∧
    ∃ front, ['\\', '\\', '\\'] = front ++ ['\\'] ∧ Canonical front :=
  ⟨rfl, (escape_inverse.1 "\\\"").2.2 _ _ rfl⟩

end StreamScript.Text
