import ClientGen.Shell.Quote
import ClientGen.Text.Octets
import Mathlib.Data.List.Basic

/-! What quoting does to a text, character by character, and that it does the same to the text's
octets: a character below 128 is its own octet, and no octet of another one is below 128, where all
that quoting looks at lies. So a machine is handed the octets of a text quoted. -/

namespace ClientGen

namespace Text

/-- The octets of one character. -/
def octets (c : Char) : List Char := (String.utf8EncodeChar c).map fun b => Char.ofNat b.toNat

theorem foldlM_loop_eq {β : Type} (f : β → UInt8 → β) (bytes : ByteArray) (b : β) {i j : Nat}
    (left : i + j = bytes.size) :
    (ByteArray.foldlM.loop (m := Id) (fun b x => pure (f b x)) bytes bytes.size (Nat.le_refl _)
      i j b).run = (bytes.data.toList.drop j).foldl f b := by
  induction i generalizing j b with
  | zero =>
    have past : bytes.data.toList.drop j = [] := List.drop_eq_nil_of_le (by
      rw [Array.length_toList]
      exact Nat.le_of_eq (left.symm.trans (Nat.zero_add j)))
    rw [ByteArray.foldlM.loop, past]
    split <;> rfl
  | succ i ih =>
    have inside : j < bytes.size := by omega
    have next : bytes.data.toList.drop j = bytes[j] :: bytes.data.toList.drop (j + 1) :=
      List.drop_eq_getElem_cons (by simpa using inside)
    rw [ByteArray.foldlM.loop, dif_pos inside, next]
    exact ih (f b bytes[j]) (by omega)

theorem foldl_eq {β : Type} (f : β → UInt8 → β) (bytes : ByteArray) (b : β) :
    bytes.foldl f b = bytes.data.toList.foldl f b := by
  simp only [ByteArray.foldl, ByteArray.foldlM, Nat.le_refl, dite_true, Nat.sub_zero]
  exact foldlM_loop_eq f bytes b (Nat.add_zero _)

theorem toList_octetsOf (bytes : ByteArray) :
    (octetsOf bytes).toList = bytes.data.toList.map fun b => Char.ofNat b.toNat := by
  have grown (bs : List UInt8) (s : String) :
      (bs.foldl (fun s b => s.push (Char.ofNat b.toNat)) s).toList =
        s.toList ++ bs.map fun b => Char.ofNat b.toNat := by
    induction bs generalizing s with
    | nil => simp
    | cons b bs ih => simp [ih]
  rw [octetsOf, foldl_eq, grown]
  rfl

theorem toList_spread (text : String) : (spread text).toList = text.toList.flatMap octets := by
  have coded : text.toUTF8.data.toList = text.toList.flatMap String.utf8EncodeChar := by
    have whole : text.toUTF8 = text.toList.utf8Encode := String.utf8Encode_toList.symm
    rw [whole, List.utf8Encode, List.data_toByteArray]
  rw [spread, toList_octetsOf, coded, List.map_flatMap]
  rfl

theorem octets_of_ascii {c : Char} (ascii : c.toNat < 128) : octets c = [c] := by
  have small : c.val.toNat ≤ 127 := Nat.le_of_lt_succ ascii
  have same : Char.ofNat c.val.toNat = c := Char.ofNat_toNat c
  simp only [octets, String.utf8EncodeChar, small, if_true, List.map_cons, List.map_nil]
  rw [UInt8.toNat_ofNat_of_lt' (by simp [UInt8.size]; omega), same]

theorem toNat_ofNat_octet (b : UInt8) : (Char.ofNat b.toNat).toNat = b.toNat := by
  have small := b.toNat_lt
  have valid : b.toNat.isValidChar := .inl (by omega)
  rw [Char.ofNat, dif_pos valid]
  rfl

theorem lt_of_mem_octets {c d : Char} (mem : d ∈ octets c) : d.toNat < 256 := by
  obtain ⟨b, -, rfl⟩ := List.mem_map.1 mem
  rw [toNat_ofNat_octet]
  exact b.toNat_lt

/-- No octet of any other character is one of these. -/
theorem le_of_mem_octets {c d : Char} (other : 128 ≤ c.toNat) (mem : d ∈ octets c) :
    128 ≤ d.toNat := by
  have large : ¬ c.val.toNat ≤ 127 := Nat.not_le_of_lt other
  obtain ⟨b, coded, rfl⟩ := List.mem_map.1 mem
  rw [toNat_ofNat_octet]
  simp only [String.utf8EncodeChar, large, if_false] at coded
  split at coded
  · simp only [List.mem_cons, List.not_mem_nil, or_false] at coded
    rcases coded with rfl | rfl <;> rw [UInt8.toNat_ofNat'] <;> omega
  · split at coded
    · simp only [List.mem_cons, List.not_mem_nil, or_false] at coded
      rcases coded with rfl | rfl | rfl <;> rw [UInt8.toNat_ofNat'] <;> omega
    · simp only [List.mem_cons, List.not_mem_nil, or_false] at coded
      rcases coded with rfl | rfl | rfl | rfl <;> rw [UInt8.toNat_ofNat'] <;> omega

theorem octets_ne_nil (c : Char) : octets c ≠ [] := by
  rw [octets, String.utf8EncodeChar]
  split
  · exact List.cons_ne_nil _ _
  · repeat' split
    all_goals exact List.cons_ne_nil _ _

end Text

namespace Shell

section

variable {c : Char}

theorem ne_of_isSafe {d : Char} (safe : isSafe c = true) (other : isSafe d = false) : c ≠ d := by
  rintro rfl
  simp [safe] at other

theorem not_mem_of_isSafe {ds : List Char} (safe : isSafe c = true)
    (others : ds.all (!isSafe ·) = true) : c ∉ ds := by
  intro mem
  have other := List.all_eq_true.1 others c mem
  simp [safe] at other

theorem toNat_lt_of_isSafe (safe : isSafe c = true) : c.toNat < 128 := by
  rw [isSafe, Bool.or_eq_true] at safe
  rcases safe with letter | mark
  · have range : (65 ≤ c.toNat ∧ c.toNat ≤ 90 ∨ 97 ≤ c.toNat ∧ c.toNat ≤ 122) ∨
        48 ≤ c.toNat ∧ c.toNat ≤ 57 := by
      have form : c.isAlphanum = (decide (65 ≤ c.val ∧ c.val ≤ 90) ||
        decide (97 ≤ c.val) && decide (c.val ≤ 122) ||
        decide (48 ≤ c.val) && decide (c.val ≤ 57)) := rfl
      simpa [form, UInt32.le_iff_toNat_le] using letter
    omega
  · have small : "-_./=:,+@%".toList.all (·.toNat < 128) = true := by decide
    simpa using List.all_eq_true.1 small c (by simpa using mark)

end

/-! ### The two forms of a quoted text -/

section

variable {cs body : List Char}

theorem quotedBody_append (front back : List Char) :
    quotedBody (front ++ back) = quotedBody front ++ quotedBody back := by
  induction front with
  | nil => rfl
  | cons c front ih =>
    rw [List.cons_append, quotedBody, quotedBody, ih]
    split <;> simp

theorem quotedBody_eq_self {body : List Char} (free : '\'' ∉ body) : quotedBody body = body := by
  induction body with
  | nil => rfl
  | cons c body ih =>
    rw [List.mem_cons, not_or] at free
    rw [quotedBody, if_neg (Ne.symm free.1), ih free.2]

theorem length_le_quotedBody (cs : List Char) : cs.length ≤ (quotedBody cs).length := by
  induction cs with
  | nil => exact Nat.le_refl 0
  | cons c cs ih =>
    rw [quotedBody]
    split <;> simp <;> omega

theorem quoteChars_of_bare (filled : cs ≠ []) (safe : ∀ c ∈ cs, isSafe c = true) :
    quoteChars cs = cs := if_pos ⟨filled, List.all_eq_true.2 safe⟩

theorem quoteChars_of_not_bare (needed : ¬ (cs ≠ [] ∧ ∀ c ∈ cs, isSafe c = true)) :
    quoteChars cs = '\'' :: quotedBody cs ++ ['\''] :=
  if_neg (by rwa [List.all_eq_true])

theorem quoteChars_eq_self_iff : quoteChars cs = cs ↔ cs ≠ [] ∧ ∀ c ∈ cs, isSafe c = true := by
  refine ⟨fun same => ?_, fun bare => quoteChars_of_bare bare.1 bare.2⟩
  by_contra needed
  have long := congrArg List.length ((quoteChars_of_not_bare needed).symm.trans same)
  have body := length_le_quotedBody cs
  simp only [List.length_append, List.length_cons, List.length_nil] at long
  omega

theorem exists_quoteChars_cons (cs : List Char) : ∃ c more, quoteChars cs = c :: more ∧
    (isSafe c = true ∨ c = '\'') := by
  by_cases bare : cs ≠ [] ∧ ∀ c ∈ cs, isSafe c = true
  · obtain ⟨c, more, rfl⟩ := List.exists_cons_of_ne_nil bare.1
    exact ⟨c, more, quoteChars_of_bare bare.1 bare.2, .inl (bare.2 c List.mem_cons_self)⟩
  · exact ⟨_, _, quoteChars_of_not_bare bare, .inr rfl⟩

end

/-! ### Octets -/

theorem flatMap_octets {cs : List Char} (ascii : ∀ c ∈ cs, c.toNat < 128) :
    cs.flatMap Text.octets = cs := by
  induction cs with
  | nil => rfl
  | cons c cs ih =>
    rw [List.forall_mem_cons] at ascii
    rw [List.flatMap_cons, Text.octets_of_ascii ascii.1, ih ascii.2]
    rfl

theorem isSafe_octets_iff {c : Char} :
    (∀ d ∈ Text.octets c, isSafe d = true) ↔ isSafe c = true := by
  by_cases ascii : c.toNat < 128
  · rw [Text.octets_of_ascii ascii, List.forall_mem_singleton]
  · constructor
    · intro safe
      obtain ⟨d, mem⟩ := List.exists_mem_of_ne_nil _ (Text.octets_ne_nil c)
      have large := Text.le_of_mem_octets (Nat.le_of_not_lt ascii) mem
      exact absurd (toNat_lt_of_isSafe (safe d mem)) (Nat.not_lt.2 large)
    · intro safe
      exact absurd (toNat_lt_of_isSafe safe) ascii

theorem quotedBody_octets (cs : List Char) :
    quotedBody (cs.flatMap Text.octets) = (quotedBody cs).flatMap Text.octets := by
  induction cs with
  | nil => rfl
  | cons c cs ih =>
    rw [List.flatMap_cons, quotedBody_append, ih, quotedBody]
    split
    · rename_i quote
      subst quote
      have opened : ['\'', '\\', '\'', '\''].flatMap Text.octets = ['\'', '\\', '\'', '\''] :=
        flatMap_octets (by simp)
      rw [List.flatMap_append, opened, Text.octets_of_ascii (by decide)]
      rfl
    · rename_i other
      have free : '\'' ∉ Text.octets c := by
        by_cases ascii : c.toNat < 128
        · rw [Text.octets_of_ascii ascii, List.mem_singleton]
          exact Ne.symm other
        · intro mem
          exact absurd (Text.le_of_mem_octets (Nat.le_of_not_lt ascii) mem) (by decide)
      rw [quotedBody_eq_self free, List.flatMap_cons]

theorem quoteChars_octets (cs : List Char) :
    quoteChars (cs.flatMap Text.octets) = (quoteChars cs).flatMap Text.octets := by
  by_cases bare : cs ≠ [] ∧ ∀ c ∈ cs, isSafe c = true
  · have same := flatMap_octets fun c mem => toNat_lt_of_isSafe (bare.2 c mem)
    rw [quoteChars_of_bare bare.1 bare.2, same, quoteChars_of_bare bare.1 bare.2]
  · have needed : ¬ (cs.flatMap Text.octets ≠ [] ∧
        ∀ d ∈ cs.flatMap Text.octets, isSafe d = true) := by
      rintro ⟨filled, safe⟩
      refine bare ⟨?_, fun c mem => isSafe_octets_iff.1 fun d inside => ?_⟩
      · rintro rfl
        exact filled rfl
      · exact safe d (List.mem_flatMap.2 ⟨c, mem, inside⟩)
    have quotes : ['\''].flatMap Text.octets = ['\''] := flatMap_octets (by simp)
    rw [quoteChars_of_not_bare needed, quoteChars_of_not_bare bare, quotedBody_octets]
    rw [List.flatMap_append, List.flatMap_cons, quotes, Text.octets_of_ascii (by decide)]
    rfl

/-- The octets of a quoted text are its octets quoted. -/
theorem spread_quote (text : String) : Text.spread (quote text) = quote (Text.spread text) := by
  apply String.toList_inj.1
  rw [Text.toList_spread, quote, quote, String.toList_ofList, String.toList_ofList,
    Text.toList_spread, quoteChars_octets]

theorem mem_spread_lt {text : String} {c : Char} (mem : c ∈ (Text.spread text).toList) :
    c.toNat < 256 := by
  rw [Text.toList_spread] at mem
  obtain ⟨d, -, inside⟩ := List.mem_flatMap.1 mem
  exact Text.lt_of_mem_octets inside

end Shell

end ClientGen
