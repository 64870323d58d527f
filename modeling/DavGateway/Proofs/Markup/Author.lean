/-
# Names of authors in documents

Whatever stands in the name of an author, no markup begins in what is shown of
it, and reading that gives the name back.  Only a native client, which would
refuse the whole document, is not shown the control characters of a name that is
not safe.

* `isSafe_eq_all` : a text is safe by its bytes if it is safe by its characters.
* `isSafe_iff_controls` : the control characters of a safe text.
* `escapeQuotedChar_cases` : what is made of one character.
* `escapeAuthor_shown` : what is shown of a name, and what is lost.
-/
import DavGateway.Proofs.Markup.Content
import DavGateway.Proofs.Text.Ascii

namespace DavGateway.Markup

/-! ## Safe texts -/

/-- The numbers of the characters and bytes that a document may hold. -/
def IsAllowedCode (n : Nat) : Prop := (32 ≤ n ∧ n ≠ 127) ∨ n = 9 ∨ n = 10 ∨ n = 13

theorem isControl_eq_true_iff {c : Char} :
    isControl c = true ↔ c.toNat < 0x20 ∨ c.toNat = 0x7f := by
  simp [isControl]

theorem isAllowed_iff {c : Char} : isAllowed c = true ↔ IsAllowedCode c.toNat := by
  have htab : c = '\t' ↔ c.toNat = 9 := Char.toNat_inj.symm
  have hline : c = '\n' ↔ c.toNat = 10 := Char.toNat_inj.symm
  have hreturn : c = '\r' ↔ c.toNat = 13 := Char.toNat_inj.symm
  simp only [isAllowed, isControl, Bool.or_eq_true, Bool.not_eq_true', Bool.or_eq_false_iff,
    decide_eq_true_iff, decide_eq_false_iff_not, htab, hline, hreturn]
  unfold IsAllowedCode
  omega

theorem isAllowedByte_iff {b : UInt8} : isAllowedByte b = true ↔ IsAllowedCode b.toNat := by
  simp only [isAllowedByte, Bool.or_eq_true, Bool.not_eq_true', Bool.or_eq_false_iff,
    decide_eq_true_iff, decide_eq_false_iff_not, UInt8.lt_iff_toNat_lt, ← UInt8.toNat_inj]
  show ((¬ b.toNat < 32 ∧ ¬ b.toNat = 127 ∨ b.toNat = 9) ∨ b.toNat = 10) ∨ b.toNat = 13 ↔ _
  unfold IsAllowedCode
  omega

/-- The bytes of a character are allowed if it is: those of a longer one are all high. -/
theorem all_isAllowedByte_utf8EncodeChar (c : Char) :
    (String.utf8EncodeChar c).all isAllowedByte = isAllowed c := by
  rw [Bool.eq_iff_iff, List.all_eq_true, isAllowed_iff]
  by_cases hc : c.toNat < 128
  · rw [Utf8.utf8EncodeChar_ascii hc, List.forall_mem_singleton, isAllowedByte_iff,
      UInt8.toNat_ofNat', Nat.mod_eq_of_lt (by omega)]
  · have hchar : IsAllowedCode c.toNat := .inl ⟨by omega, by omega⟩
    refine iff_of_true (fun b hb => isAllowedByte_iff.2 (.inl ?_)) hchar
    have hhigh := Utf8.le_toNat_of_mem_utf8EncodeChar (by omega) b hb
    omega

/-- A text is safe by its bytes if it is safe by its characters. -/
theorem isSafe_eq_all (text : String) : isSafe text = text.toList.all isAllowed := by
  rw [isSafe, Utf8.bytes, Utf8.encode, List.all_flatMap]
  simp only [all_isAllowedByte_utf8EncodeChar]

theorem isSafe_eq_true_iff {text : String} :
    isSafe text = true ↔ ∀ c ∈ text.toList, isAllowed c = true := by
  rw [isSafe_eq_all, List.all_eq_true]

/-- A text is safe if it has no other control characters than the three that are allowed. -/
theorem isSafe_iff_controls {text : String} :
    isSafe text = true ↔ ∀ c ∈ text.toList,
      c.toNat < 0x20 ∨ c.toNat = 0x7f → c ∈ ['\t', '\n', '\r'] := by
  rw [isSafe_eq_true_iff]
  refine forall₂_congr fun c _ => ?_
  rw [← isControl_eq_true_iff, isAllowed]
  cases isControl c <;> simp [or_assoc]

/-- Any other character than a control character is allowed. -/
theorem isAllowed_of_not_isControl {c : Char} (h : isControl c = false) : isAllowed c = true := by
  simp [isAllowed, h]

/-! ## Escaped characters -/

/-- The characters that do not stand for themselves in the name of an author, and the names of
their entities. -/
def authorEntities : List (Char × String) := [('<', "lt"), ('>', "gt"), ('&', "amp"), ('"', "quot")]

/-- A character by its entity, if it has one, or else by itself. -/
def authorChar (c : Char) : List Char :=
  match authorEntities.lookup c with
  | some name => '&' :: name.toList ++ [';']
  | none => [c]

/-- A character is escaped as one of the entities, or not at all. -/
theorem escapeQuotedChar_cases (c : Char) :
    (∃ e ∈ authorEntities, escapeQuotedChar c = '&' :: e.2.toList ++ [';'] ∧
      authorEntities.lookup c = some e.2) ∨
      c ∉ ['<', '>', '&', '"'] ∧ escapeQuotedChar c = [c] ∧ authorEntities.lookup c = none := by
  by_cases hlt : c = '<'
  · subst c
    exact .inl ⟨('<', "lt"), by simp [authorEntities], rfl, rfl⟩
  by_cases hgt : c = '>'
  · subst c
    exact .inl ⟨('>', "gt"), by simp [authorEntities], rfl, rfl⟩
  by_cases hamp : c = '&'
  · subst c
    exact .inl ⟨('&', "amp"), by simp [authorEntities], rfl, rfl⟩
  by_cases hquot : c = '"'
  · subst c
    exact .inl ⟨('"', "quot"), by simp [authorEntities], rfl, rfl⟩
  · right
    refine ⟨by simp [hlt, hgt, hamp, hquot], ?_, ?_⟩
    · rw [escapeQuotedChar, if_neg hquot, escapeChar_of_ne hlt hgt hamp]
    · simp [authorEntities, List.lookup_eq_none_iff, hlt, hgt, hamp, hquot]

/-- Escaping is looking up the entity. -/
theorem escapeQuotedChar_eq_authorChar : escapeQuotedChar = authorChar := by
  funext c
  unfold authorChar
  rcases escapeQuotedChar_cases c with ⟨e, -, hchar, hlookup⟩ | ⟨-, hchar, hlookup⟩
  · rw [hchar, hlookup]
  · rw [hchar, hlookup]

/-- An entity has no other mark of markup in it than its ampersand, and a document may hold it. -/
theorem forall_mem_entity : ∀ e ∈ authorEntities, ∀ d ∈ '&' :: e.2.toList ++ [';'],
    d ∉ ['<', '>', '"'] ∧ isAllowed d = true := by
  have hall : (authorEntities.all fun e => ('&' :: e.2.toList ++ [';']).all fun d =>
      (['<', '>', '"'].all fun mark => mark ≠ d) && isAllowed d) = true := by
    decide
  intro e he d hd
  have h := List.all_eq_true.1 (List.all_eq_true.1 hall e he) d hd
  rw [Bool.and_eq_true, List.all_eq_true] at h
  exact ⟨fun hmem => by simpa using h.1 d hmem, h.2⟩

/-- No `<`, `>` or double quote is left by escaping, and what was allowed is allowed then. -/
theorem forall_mem_escapeQuotedChar {c d : Char} (hd : d ∈ escapeQuotedChar c) :
    d ∉ ['<', '>', '"'] ∧ (isAllowed c = true → isAllowed d = true) := by
  rcases escapeQuotedChar_cases c with ⟨e, he, hchar, -⟩ | ⟨hmark, hchar, -⟩
  · rw [hchar] at hd
    exact ⟨(forall_mem_entity e he d hd).1, fun _ => (forall_mem_entity e he d hd).2⟩
  · rw [hchar, List.mem_singleton] at hd
    subst hd
    refine ⟨fun hmem => hmark ?_, id⟩
    have hsub : ['<', '>', '"'] ⊆ ['<', '>', '&', '"'] := by simp
    exact hsub hmem

/-- Every ampersand of an escaped character begins one of the entities. -/
theorem referenced_escapeQuotedChar (c : Char) :
    Referenced (· ∈ authorEntities.map fun e => e.2.toList) (escapeQuotedChar c) := by
  rcases escapeQuotedChar_cases c with ⟨e, he, hchar, -⟩ | ⟨hmark, hchar, -⟩
  · rw [hchar]
    apply referenced_reference (List.mem_map_of_mem he)
    have hnone : ∀ e ∈ authorEntities, '&' ∉ e.2.toList := by simp [authorEntities]
    exact hnone e he
  · rw [hchar]
    apply referenced_of_not_mem
    rw [List.mem_singleton]
    rintro rfl
    simp at hmark

/-! ## Escaped names -/

/-- What is shown of a name: all of it, or for a native client all but the control characters if it
is not safe. -/
def shownOf (client : Client) (name : String) : List Char :=
  if client = .native ∧ isSafe name = false then name.toList.filter fun c => !isControl c
  else name.toList

theorem toList_escapeAuthor (client : Client) (name : String) :
    (escapeAuthor client name).toList = (shownOf client name).flatMap escapeQuotedChar := by
  rw [escapeAuthor, String.toList_ofList, escapeQuoted_eq, shownOf]
  simp

/-- Reading what stands in a document gives back what is shown of the name. -/
theorem unescape_escapeAuthor (client : Client) (name : String) :
    unescape (escapeAuthor client name).toList = shownOf client name := by
  rw [toList_escapeAuthor, ← escapeQuoted_eq, unescape_escapeQuoted]

/-- Whatever is shown to a native client is allowed. -/
theorem isAllowed_of_mem_shownOf {name : String} {c : Char} (hc : c ∈ shownOf .native name) :
    isAllowed c = true := by
  by_cases hsafe : isSafe name = true
  · rw [shownOf, hsafe, if_neg (by simp)] at hc
    exact isSafe_eq_true_iff.1 hsafe c hc
  · rw [shownOf, if_pos ⟨rfl, Bool.not_eq_true _ ▸ hsafe⟩, List.mem_filter] at hc
    exact isAllowed_of_not_isControl (by simpa using hc.2)

/-- **Names of authors are safe in a document, and lose only what they must.**  No markup begins in
what any client is shown, each ampersand begins one of four entities, and no other character is
escaped.  Reading it gives the name back, but for the control characters of a name that is not safe
for a native client, whose document is always safe.  A text is safe if its only control characters
are tabs, line feeds and carriage returns. -/
theorem escapeAuthor_shown (name : String) :
    (∀ client : Client,
      ('<' ∉ (escapeAuthor client name).toList ∧ '>' ∉ (escapeAuthor client name).toList ∧
        '"' ∉ (escapeAuthor client name).toList) ∧
      Referenced (· ∈ ["lt".toList, "gt".toList, "amp".toList, "quot".toList])
        (escapeAuthor client name).toList ∧
      (escapeAuthor client name).toList =
        (unescape (escapeAuthor client name).toList).flatMap authorChar) ∧
      unescape (escapeAuthor .other name).toList = name.toList ∧
      unescape (escapeAuthor .native name).toList =
        (if isSafe name = true then name.toList
          else name.toList.filter fun c => ¬ (c.toNat < 0x20 ∨ c.toNat = 0x7f)) ∧
      isSafe (escapeAuthor .native name) = true ∧
      (isSafe name = true → escapeAuthor .native name = escapeAuthor .other name) ∧
      ∀ text : String, isSafe text = true ↔ ∀ c ∈ text.toList,
        c.toNat < 0x20 ∨ c.toNat = 0x7f → c ∈ ['\t', '\n', '\r'] := by
  have hmarks : ∀ client, ∀ d ∈ (escapeAuthor client name).toList, d ∉ ['<', '>', '"'] := by
    intro client d hd
    rw [toList_escapeAuthor] at hd
    obtain ⟨c, -, hd⟩ := List.mem_flatMap.1 hd
    exact (forall_mem_escapeQuotedChar hd).1
  refine ⟨fun client => ⟨⟨?_, ?_, ?_⟩, ?_, ?_⟩, ?_, ?_, ?_, ?_, fun _ => isSafe_iff_controls⟩
  · exact fun hmem => hmarks client _ hmem (by simp)
  · exact fun hmem => hmarks client _ hmem (by simp)
  · exact fun hmem => hmarks client _ hmem (by simp)
  · rw [toList_escapeAuthor]
    exact Referenced.flatMap fun c _ => referenced_escapeQuotedChar c
  · rw [unescape_escapeAuthor, toList_escapeAuthor, escapeQuotedChar_eq_authorChar]
  · rw [unescape_escapeAuthor, shownOf, if_neg (by simp)]
  · rw [unescape_escapeAuthor, shownOf]
    by_cases hsafe : isSafe name = true
    · rw [if_pos hsafe, if_neg (by simp [hsafe])]
    · rw [if_neg hsafe, if_pos ⟨rfl, by simpa using hsafe⟩]
      apply List.filter_congr
      intro c _
      rw [Bool.eq_iff_iff, decide_eq_true_iff, ← isControl_eq_true_iff]
      simp
  · rw [isSafe_eq_true_iff, toList_escapeAuthor]
    intro d hd
    obtain ⟨c, hc, hd⟩ := List.mem_flatMap.1 hd
    exact (forall_mem_escapeQuotedChar hd).2 (isAllowed_of_mem_shownOf hc)
  · intro hsafe
    apply String.toList_inj.1
    rw [toList_escapeAuthor, toList_escapeAuthor, shownOf, shownOf, hsafe, if_neg (by simp),
      if_neg (by simp)]

/-- A name with marks, an entity of its own and a line break is shown to every client alike; of a
name that is not safe, a native client is shown neither the control character nor the tab. -/
theorem escapeAuthor_shown_two_names :
    isSafe "o'neil\n<&amp;\">" = true ∧
      escapeAuthor .native "o'neil\n<&amp;\">" = escapeAuthor .other "o'neil\n<&amp;\">" ∧
      escapeAuthor .other "o'neil\n<&amp;\">" = "o'neil\n&lt;&amp;amp;&quot;&gt;" ∧
      isSafe "a\tb\x02" = false ∧
      unescape (escapeAuthor .native "a\tb\x02").toList = "ab".toList ∧
      unescape (escapeAuthor .other "a\tb\x02").toList = "a\tb\x02".toList := by
  have hsafe : isSafe "o'neil\n<&amp;\">" = true := by decide
  have hcontrol : isSafe "a\tb\x02" = false := by decide
  obtain ⟨-, hother, hnative, -⟩ := escapeAuthor_shown "a\tb\x02"
  rw [hcontrol, if_neg (by decide)] at hnative
  exact ⟨hsafe, (escapeAuthor_shown "o'neil\n<&amp;\">").2.2.2.2.1 hsafe, by decide, hcontrol,
    hnative.trans (by decide), hother⟩

end DavGateway.Markup
