import TestReport.Json.Reader
import TestReport.Text.Blank
import Mathlib.Data.List.Basic

/-!
# The tokens of JSON text

What the reader takes off a text as a string, a word or a number, said without the reader. A string
is described by the characters that it spells and the text they stand in (`Quoted`); the description
admits more escapes than the reader does, as only three things about them matter: no quote stands
inside an escape but in `\"`, the escape `\"` spells a quote, and an escape starts with a backslash.
Of a word or a number it is enough that it is made of letters, digits, signs and points (`Scans`).
-/

namespace TestReport

namespace Text

/-- A hexadecimal digit of a value below ten is the decimal digit of that value. -/
theorem toNat_of_hexValue? {c : Char} {v : Nat} (h : hexValue? c = some v) :
    v < 16 ∧ (v < 10 → c.toNat = 48 + v) := by
  unfold hexValue? at h
  simp only [Char.le_def, UInt32.le_iff_toNat_le] at h
  have hval : c.val.toNat = c.toNat := rfl
  have h0 : '0'.val.toNat = 48 := rfl
  have h9 : '9'.val.toNat = 57 := rfl
  have ha : 'a'.val.toNat = 97 := rfl
  have hf : 'f'.val.toNat = 102 := rfl
  have hA : 'A'.val.toNat = 65 := rfl
  have hF : 'F'.val.toNat = 70 := rfl
  have h0' : '0'.toNat = 48 := rfl
  have ha' : 'a'.toNat = 97 := rfl
  have hA' : 'A'.toNat = 65 := rfl
  split at h
  · cases h; omega
  split at h
  · cases h; omega
  split at h
  · cases h; omega
  · cases h

/-- Four hexadecimal digits that are worth a small letter start with `006` or with `007`. -/
theorem exists_of_hexNumber?_letter {digits : List Char} {n : Nat} (hlength : digits.length = 4)
    (h : hexNumber? digits = some n) (hlow : 97 ≤ n) (hhigh : n ≤ 122) :
    ∃ c rest, digits = '0' :: '0' :: c :: rest ∧ (c = '6' ∨ c = '7') := by
  obtain ⟨c₁, c₂, c₃, c₄, rfl⟩ : ∃ c₁ c₂ c₃ c₄, digits = [c₁, c₂, c₃, c₄] :=
    List.length_eq_four.1 hlength
  simp only [hexNumber?, List.foldlM_cons, List.foldlM_nil, Option.bind_eq_bind,
    Option.bind_eq_some_iff, Option.map_eq_some_iff, Option.pure_def, Option.some.injEq] at h
  obtain ⟨_, ⟨v₁, h₁, rfl⟩, _, ⟨v₂, h₂, rfl⟩, _, ⟨v₃, h₃, rfl⟩, _, ⟨v₄, h₄, rfl⟩, rfl⟩ := h
  obtain ⟨-, hd₁⟩ := toNat_of_hexValue? h₁
  obtain ⟨-, hd₂⟩ := toNat_of_hexValue? h₂
  obtain ⟨hv₃, hd₃⟩ := toNat_of_hexValue? h₃
  obtain ⟨hv₄, -⟩ := toNat_of_hexValue? h₄
  have hzero₁ : c₁ = '0' := Char.toNat_inj.1 (by show c₁.toNat = 48; omega)
  have hzero₂ : c₂ = '0' := Char.toNat_inj.1 (by show c₂.toNat = 48; omega)
  refine ⟨c₃, [c₄], by rw [hzero₁, hzero₂], ?_⟩
  rcases (by omega : c₃.toNat = 54 ∨ c₃.toNat = 55) with hc | hc
  · exact .inl (Char.toNat_inj.1 hc)
  · exact .inr (Char.toNat_inj.1 hc)

end Text

namespace Json

/-- A run of two steps succeeds when the first does and then the second. -/
theorem bind_eq_ok {ε α β : Type} {x : Except ε α} {f : α → Except ε β} {b : β} :
    x >>= f = .ok b ↔ ∃ a, x = .ok a ∧ f a = .ok b := by
  cases x <;> simp [bind, Except.bind]

theorem map_eq_ok {ε α β : Type} {x : Except ε α} {f : α → β} {b : β} :
    x.map f = .ok b ↔ ∃ a, x = .ok a ∧ f a = b := by
  cases x <;> simp [Except.map]

/-! ## Escapes -/

/-- What stands after a backslash: the character it is for, and the characters it takes. A small
letter needs the digits `006` or `007`. -/
inductive Escape : Char → List Char → Prop
  | quote : Escape '"' ['"']
  | short {d c : Char} (hc : c ∈ ['\\', '/', 'b', 'f', 'n', 'r', 't']) (hd : d.isLower = false) :
    Escape d [c]
  | unicode {d : Char} {digits : List Char} (h : ∀ c ∈ digits, (Text.hexValue? c).isSome = true)
    (hd : d.isLower = true → ∃ c rest, digits = '0' :: '0' :: c :: rest ∧ (c = '6' ∨ c = '7')) :
    Escape d ('u' :: digits)
  | pair {d : Char} {first second : List Char}
    (h : ∀ c ∈ first, (Text.hexValue? c).isSome = true)
    (h' : ∀ c ∈ second, (Text.hexValue? c).isSome = true) (hd : d.isLower = false) :
    Escape d ('u' :: (first ++ '\\' :: 'u' :: second))

theorem ne_of_hexValue? {c : Char} (h : (Text.hexValue? c).isSome = true) :
    c ≠ '"' ∧ c ≠ '\\' ∧ c ≠ '\x7b' := by
  refine ⟨?_, ?_, ?_⟩ <;> rintro rfl <;> revert h <;> decide

/-- A quote inside an escape stands for itself, and a brace is never part of one. -/
theorem Escape.quote_or_ne {d : Char} {e : List Char} (he : Escape d e) :
    (d = '"' ∧ e = ['"']) ∨ ∀ c ∈ e, c ≠ '"' ∧ c ≠ '\x7b' := by
  have hexed : ∀ digits : List Char, (∀ c ∈ digits, (Text.hexValue? c).isSome = true) →
      ∀ c ∈ digits, c ≠ '"' ∧ c ≠ '\x7b' := by
    intro digits h c hc
    obtain ⟨hquote, -, hbrace⟩ := ne_of_hexValue? (h c hc)
    exact ⟨hquote, hbrace⟩
  cases he with
  | quote => exact .inl ⟨rfl, rfl⟩
  | short hc =>
    refine .inr ?_
    simp only [List.mem_singleton, forall_eq]
    constructor <;> rintro rfl <;> revert hc <;> decide
  | unicode h => exact .inr (List.forall_mem_cons.2 ⟨by decide, hexed _ h⟩)
  | pair h h' =>
    refine .inr (List.forall_mem_cons.2 ⟨by decide, List.forall_mem_append.2 ⟨hexed _ h, ?_⟩⟩)
    exact List.forall_mem_cons.2 ⟨by decide, List.forall_mem_cons.2 ⟨by decide, hexed _ h'⟩⟩

theorem Escape.ne_brace {d : Char} {e : List Char} (he : Escape d e) : ∀ c ∈ e, c ≠ '\x7b' := by
  rcases he.quote_or_ne with ⟨-, rfl⟩ | hne
  · exact List.forall_mem_singleton.2 (by decide)
  · exact fun c hc => (hne c hc).2

theorem hexValue?_isSome_of_hexNumber? {digits : List Char} {n : Nat}
    (h : Text.hexNumber? digits = some n) : ∀ c ∈ digits, (Text.hexValue? c).isSome = true := by
  unfold Text.hexNumber? at h
  generalize (0 : Nat) = start at h
  induction digits generalizing start with
  | nil => simp
  | cons c digits ih =>
    rw [List.foldlM_cons] at h
    obtain ⟨m, hm, hrest⟩ := Option.bind_eq_some_iff.1 h
    obtain ⟨v, hv, -⟩ := Option.map_eq_some_iff.1 hm
    intro d hd
    rcases List.mem_cons.1 hd with rfl | hd
    · simp [hv]
    · exact ih m hrest d hd

theorem exists_of_readHexWord {s t : List Char} {n : Nat} (h : readHexWord s = .ok (n, t)) :
    ∃ digits, s = digits ++ t ∧ digits.length = 4 ∧ Text.hexNumber? digits = some n := by
  unfold readHexWord at h
  simp only at h
  split at h
  next m hm =>
    split at h
    next hlength =>
      cases h
      exact ⟨s.take 4, (List.take_append_drop 4 s).symm, hlength, hm⟩
    · cases h
  next => split at h <;> cases h

theorem exists_of_readPairMark {c : Char} {s t : List Char} (h : readPairMark c s = .ok t) :
    s = c :: t := by
  unfold readPairMark at h
  split at h
  · cases h
  · split at h
    next heq => cases h; rw [heq]
    · cases h

theorem toNat_ofNat_or (n : Nat) : (Char.ofNat n).toNat = n ∨ (Char.ofNat n).toNat = 0 := by
  unfold Char.ofNat
  by_cases hvalid : n.isValidChar
  · rw [dif_pos hvalid]
    exact .inl rfl
  · rw [dif_neg hvalid]
    exact .inr rfl

theorem isLower_ofNat {n : Nat} (h : (Char.ofNat n).isLower = true) : 97 ≤ n ∧ n ≤ 122 := by
  have hbounds : (decide ('a'.val ≤ (Char.ofNat n).val) && decide ((Char.ofNat n).val ≤ 'z'.val)) =
      true := h
  have hrange : 97 ≤ (Char.ofNat n).toNat ∧ (Char.ofNat n).toNat ≤ 122 := by
    simpa [UInt32.le_iff_toNat_le] using hbounds
  rcases toNat_ofNat_or n with hn | hn <;> omega

theorem exists_of_readCodePoint {s t : List Char} {d : Char} (h : readCodePoint s = .ok (d, t)) :
    ∃ e, Escape d ('u' :: e) ∧ s = e ++ t := by
  unfold readCodePoint at h
  obtain ⟨⟨n, s₁⟩, hfirst, hcode⟩ := bind_eq_ok.1 h
  obtain ⟨first, rfl, hlength, hdigits⟩ := exists_of_readHexWord hfirst
  have hhex := hexValue?_isSome_of_hexNumber? hdigits
  simp only at hcode
  split at hcode
  · cases hcode
  split at hcode
  · obtain ⟨s₂, hslash, hcode₁⟩ := bind_eq_ok.1 hcode
    obtain ⟨s₃, hmark, hcode₂⟩ := bind_eq_ok.1 hcode₁
    obtain ⟨⟨m, s₄⟩, hsecond, hcode₃⟩ := bind_eq_ok.1 hcode₂
    obtain ⟨second, rfl, -, hdigits'⟩ := exists_of_readHexWord hsecond
    obtain rfl := exists_of_readPairMark hslash
    obtain rfl := exists_of_readPairMark hmark
    simp only at hcode₃
    split at hcode₃
    · obtain ⟨hd, rfl⟩ := Prod.mk.inj (Except.ok.inj hcode₃)
      have hlower : d.isLower = false := by
        refine Bool.eq_false_iff.2 fun hlower => ?_
        have hbound := isLower_ofNat (hd ▸ hlower)
        omega
      exact ⟨_, .pair hhex (hexValue?_isSome_of_hexNumber? hdigits') hlower, by simp⟩
    · cases hcode₃
  · obtain ⟨hd, rfl⟩ := Prod.mk.inj (Except.ok.inj hcode)
    refine ⟨_, .unicode hhex fun hlower => ?_, rfl⟩
    obtain ⟨hlow, hhigh⟩ := isLower_ofNat (hd ▸ hlower)
    exact Text.exists_of_hexNumber?_letter hlength hdigits hlow hhigh

theorem exists_of_readEscape {s t : List Char} {d : Char} (h : readEscape s = .ok (d, t)) :
    ∃ e, Escape d e ∧ s = e ++ t := by
  cases s with
  | nil => cases h
  | cons c s =>
    unfold readEscape at h
    simp only at h
    by_cases hu : c = 'u'
    · rw [if_pos hu] at h
      obtain ⟨e, he, rfl⟩ := exists_of_readCodePoint h
      exact ⟨'u' :: e, he, by rw [hu]; rfl⟩
    rw [if_neg hu] at h
    by_cases hquote : c = '"'
    · subst hquote
      cases h
      exact ⟨_, .quote, rfl⟩
    have hshort : c ∈ ['\\', '/', 'b', 'f', 'n', 'r', 't'] ∧ d.isLower = false ∧ s = t := by
      split at h
      next hself =>
        obtain ⟨rfl, rfl⟩ := Prod.mk.inj (Except.ok.inj h)
        rcases hself.resolve_left hquote with rfl | rfl <;> exact ⟨by decide, by decide, rfl⟩
      iterate 5
        split at h
        next hc =>
          obtain ⟨rfl, rfl⟩ := Prod.mk.inj (Except.ok.inj h)
          exact ⟨by simp [hc], by decide, rfl⟩
      cases h
    exact ⟨[c], .short hshort.1 hshort.2.1, by rw [hshort.2.2]; rfl⟩

/-! ## Strings -/

/-- The characters of a string, the text after its opening quote and the text after it. -/
inductive Quoted : List Char → List Char → List Char → Prop
  | close (rest : List Char) : Quoted [] ('"' :: rest) rest
  | char {c : Char} {cs s rest : List Char} (hquote : c ≠ '"') (hslash : c ≠ '\\')
    (h : Quoted cs s rest) : Quoted (c :: cs) (c :: s) rest
  | escape {d : Char} {e cs s rest : List Char} (he : Escape d e) (h : Quoted cs s rest) :
    Quoted (d :: cs) ('\\' :: (e ++ s)) rest

theorem Quoted.suffix {cs s rest : List Char} (h : Quoted cs s rest) : rest <:+ s := by
  induction h with
  | close => exact List.suffix_cons _ _
  | char _ _ _ ih => exact ih.trans (List.suffix_cons _ _)
  | escape _ _ ih => exact ih.trans ((List.suffix_append _ _).trans (List.suffix_cons _ _))

theorem readUnit_cases {s t : List Char} {u : Option Char} (h : readUnit s = .ok (u, t)) :
    (u = none ∧ s = '"' :: t) ∨ (∃ c, u = some c ∧ c ≠ '"' ∧ c ≠ '\\' ∧ s = c :: t) ∨
      ∃ d e, u = some d ∧ Escape d e ∧ s = '\\' :: (e ++ t) := by
  cases s with
  | nil => cases h
  | cons c s =>
    unfold readUnit at h
    simp only at h
    split at h
    next hc =>
      cases h
      exact .inl ⟨rfl, by rw [hc]⟩
    next hquote =>
      split at h
      next hc =>
        obtain ⟨⟨d, t'⟩, hescape, h⟩ := bind_eq_ok.1 h
        cases h
        obtain ⟨e, he, rfl⟩ := exists_of_readEscape hescape
        exact .inr (.inr ⟨d, e, rfl, he, by rw [hc]⟩)
      next hslash =>
        split at h
        · cases h
        · cases h
          exact .inr (.inl ⟨c, rfl, hquote, hslash, rfl⟩)

theorem quoted_of_readChars {fuel : Nat} {s rest cs : List Char}
    (h : readChars fuel s = .ok (cs, rest)) : Quoted cs s rest := by
  induction fuel generalizing s cs with
  | zero => cases h
  | succ fuel ih =>
    unfold readChars at h
    obtain ⟨⟨u, t⟩, hunit, hnext⟩ := bind_eq_ok.1 h
    rcases readUnit_cases hunit with ⟨rfl, rfl⟩ | ⟨c, rfl, hquote, hslash, rfl⟩ |
      ⟨d, e, rfl, he, rfl⟩
    · cases hnext
      exact .close _
    · obtain ⟨⟨cs', s'⟩, hrest, hlast⟩ := bind_eq_ok.1 hnext
      cases hlast
      exact .char hquote hslash (ih hrest)
    · obtain ⟨⟨cs', s'⟩, hrest, hlast⟩ := bind_eq_ok.1 hnext
      cases hlast
      exact .escape he (ih hrest)

theorem quoted_of_readString {s rest : List Char} {text : String}
    (h : readString s = .ok (text, rest)) : ∃ cs, Quoted cs s rest ∧ text = String.ofList cs := by
  unfold readString at h
  obtain ⟨⟨cs, t⟩, hchars, h⟩ := bind_eq_ok.1 h
  cases h
  exact ⟨cs, quoted_of_readChars hchars, rfl⟩

/-! ## Words and numbers -/

/-- Characters of words and numbers. -/
def isScalarChar (c : Char) : Bool :=
  c.isAlphanum || c == '-' || c == '+' || c == '.'

theorem isScalarChar_ne {c : Char} (h : isScalarChar c = true) :
    c ≠ '"' ∧ c ≠ '\\' ∧ c ≠ ':' ∧ c ≠ '\x7b' := by
  refine ⟨?_, ?_, ?_, ?_⟩ <;> rintro rfl <;> revert h <;> decide

theorem ne_of_isLower {c : Char} (h : c.isLower = true) : c ≠ '"' ∧ c ≠ '\\' := by
  refine ⟨?_, ?_⟩ <;> rintro rfl <;> exact absurd h (by decide)

theorem isBlank_of_isScalarChar {c : Char} (h : isScalarChar c = true) :
    Text.isBlank c = false := by
  refine Text.isBlank_of_visible ?_
  have hclasses : (decide ('A'.val ≤ c.val ∧ c.val ≤ 'Z'.val) ||
      (decide ('a'.val ≤ c.val) && decide (c.val ≤ 'z'.val)) ||
      (decide ('0'.val ≤ c.val) && decide (c.val ≤ '9'.val)) ||
      c == '-' || c == '+' || c == '.') = true := h
  simp only [Bool.or_eq_true, Bool.and_eq_true, decide_eq_true_eq, beq_iff_eq,
    UInt32.le_iff_toNat_le] at hclasses
  have hval : c.val.toNat = c.toNat := rfl
  rcases hclasses with (((((h | h) | h) | rfl) | rfl) | rfl)
  · simp at h; omega
  · simp at h; omega
  · simp at h; omega
  all_goals decide

/-- A text that starts with characters of words and numbers, and what is left after some of them. -/
inductive Scans : List Char → List Char → Prop
  | done (s : List Char) : Scans s s
  | char {c : Char} {s t : List Char} (hc : isScalarChar c = true) (h : Scans s t) :
    Scans (c :: s) t

theorem Scans.trans {s t u : List Char} (h : Scans s t) (h' : Scans t u) : Scans s u := by
  induction h with
  | done => exact h'
  | char hc _ ih => exact .char hc (ih h')

theorem Scans.suffix {s rest : List Char} (h : Scans s rest) : rest <:+ s := by
  induction h with
  | done => exact List.suffix_refl _
  | char _ _ ih => exact ih.trans (List.suffix_cons _ _)

theorem isScalarChar_of_isDigit {c : Char} (h : c.isDigit = true) : isScalarChar c = true := by
  simp [isScalarChar, Char.isAlphanum, h]

theorem scans_dropWhile_isDigit (s : List Char) : Scans s (s.dropWhile Char.isDigit) := by
  induction s with
  | nil => exact .done []
  | cons c s ih =>
    by_cases hc : c.isDigit = true
    · rw [List.dropWhile_cons_of_pos hc]
      exact .char (isScalarChar_of_isDigit hc) ih
    · rw [List.dropWhile_cons_of_neg hc]
      exact .done _

theorem scans_of_readWord {word s t : List Char} (hword : ∀ c ∈ word, isScalarChar c = true)
    (h : readWord word s = .ok t) : Scans s t := by
  induction word generalizing s with
  | nil =>
    cases h
    exact .done _
  | cons w word ih =>
    cases s with
    | nil => cases h
    | cons c s =>
      unfold readWord at h
      split at h
      next hc =>
        obtain ⟨hw, hword⟩ := List.forall_mem_cons.1 hword
        exact .char (hc ▸ hw) (ih hword h)
      · cases h

theorem eq_of_makeFloat {negative : Bool} {significand : Nat} {e : Int} {s t : List Char}
    {n : Number} (h : makeFloat negative significand e s = .ok (n, t)) : s = t := by
  unfold makeFloat at h
  split at h
  · exact (Prod.mk.inj (Except.ok.inj h)).2
  · cases h

theorem scans_of_readExponent {negative : Bool} {significand : Nat} {e : Int} {s t : List Char}
    {n : Number} (h : readExponent negative significand e s = .ok (n, t)) : Scans s t := by
  unfold readExponent at h
  split at h
  next minus r hsign =>
    have hscan : Scans s r := by
      split at hsign <;> obtain ⟨-, rfl⟩ := Prod.mk.inj hsign
      · exact .char (by decide) (.done _)
      · exact .char (by decide) (.done _)
      · exact .done _
    refine hscan.trans ?_
    have hdrop := scans_dropWhile_isDigit r
    cases r with
    | nil => cases h
    | cons c r =>
      simp only at h
      split at h
      · cases h
      · split at h
        · exact eq_of_makeFloat h ▸ hdrop
        · split at h
          · cases h
          · exact (Prod.mk.inj (Except.ok.inj h)).2 ▸ hdrop

theorem scans_of_readTail {negative : Bool} {significand : Nat} {e : Int} {s t : List Char}
    {n : Number} (h : readTail negative significand e s = .ok (n, t)) : Scans s t := by
  unfold readTail at h
  split at h
  · exact eq_of_makeFloat h ▸ .done _
  · split at h
    next he => exact .char (by rcases he with rfl | rfl <;> decide) (scans_of_readExponent h)
    · exact eq_of_makeFloat h ▸ .done _

theorem scans_of_readFraction {negative : Bool} {significand : Nat} {e : Int} {s t : List Char}
    {n : Number} (h : readFraction negative significand e s = .ok (n, t)) : Scans s t := by
  unfold readFraction at h
  simp only at h
  split at h
  · split at h <;> cases h
  · exact (scans_dropWhile_isDigit s).trans (scans_of_readTail h)

theorem scans_of_readNumber {s t : List Char} {n : Number} (h : readNumber s = .ok (n, t)) :
    Scans s t := by
  unfold readNumber at h
  split at h
  next negative r hsign =>
    have hscan : Scans s r := by
      split at hsign <;> obtain ⟨-, rfl⟩ := Prod.mk.inj hsign
      · exact .char (by decide) (.done _)
      · exact .done _
    refine hscan.trans ?_
    have hdrop := scans_dropWhile_isDigit r
    cases r with
    | nil => cases h
    | cons c r =>
      simp only at h
      split at h
      · cases h
      split at h
      · cases h
      split at h
      next u hpoint =>
        rw [hpoint] at hdrop
        exact hdrop.trans (.char (by decide) (scans_of_readFraction h))
      · split at h
        · exact (Prod.mk.inj (Except.ok.inj h)).2 ▸ hdrop
        · exact hdrop.trans (scans_of_readTail h)

end Json

end TestReport
