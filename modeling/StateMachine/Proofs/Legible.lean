import Mathlib.Data.String.Basic
import Mathlib.Tactic.Common
import StateMachine.Label
import StateMachine.Symbol
import StateMachine.Text.Sort

/-!
# Legible texts

Renderings are read from left to right, so a part has to show where it ends. Words are ended by the
next separator. Quoted texts may hold separators, but end with the first quote that is not escaped.
Both are legible: what follows them can be told from the whole. Parts that are legible can be put
one after another, or in a list with a separator between them.
-/

namespace StateMachine.Text

/-! ### Words -/

/-- The characters between the parts of a rendering. -/
def isSeparator (c : Char) : Bool :=
  c ∈ ['(', ')', '|', ',', ';', '=', '.', '[', ']', '\x7b', '\x7d']

/-- A text that can follow a part: there is nothing more, or a separator. -/
def Follows (x : List Char) : Prop := ∀ c ∈ x.head?, isSeparator c = true

@[simp] lemma follows_nil : Follows [] := by
  simp [Follows]

@[simp] lemma follows_cons {c : Char} {x : List Char} :
    Follows (c :: x) ↔ isSeparator c = true := by
  simp [Follows]

/-- A word ends where the first separator stands. -/
lemma append_inj_of_word {u v x y : List Char} (hu : ∀ c ∈ u, isSeparator c = false)
    (hv : ∀ c ∈ v, isSeparator c = false) (hx : Follows x) (hy : Follows y)
    (h : u ++ x = v ++ y) : u = v ∧ x = y := by
  induction u generalizing v with
  | nil =>
    cases v with
    | nil => exact ⟨rfl, h⟩
    | cons d v =>
      rw [List.nil_append] at h
      simp [h, hv d] at hx
  | cons c u ih =>
    cases v with
    | nil =>
      rw [List.nil_append] at h
      simp [← h, hu c] at hy
    | cons d v =>
      rw [List.cons_append, List.cons_append, List.cons.injEq] at h
      obtain ⟨rfl, h⟩ := h
      rw [List.forall_mem_cons] at hu hv
      obtain ⟨rfl, rfl⟩ := ih hu.2 hv.2 h
      exact ⟨rfl, rfl⟩

/-- A word with a letter, or a word without letters that goes on behind a point. -/
inductive Pointed : List Char → Prop
  | word {u : List Char} (hu : ∀ c ∈ u, isSeparator c = false) (hletter : ∃ c ∈ u, c.isAlpha) :
    Pointed u
  | point {u v : List Char} (hne : u ≠ []) (hu : ∀ c ∈ u, isSeparator c = false ∧ ¬ c.isAlpha)
      (hv : ∀ c ∈ v, isSeparator c = false) : Pointed (u ++ '.' :: v)

lemma Pointed.of_all {u : List Char} (hu : u.all fun c => !isSeparator c)
    (hletter : u.any Char.isAlpha) : Pointed u :=
  .word (by simpa using hu) (by simpa using hletter)

/-- Though a point is a separator, it does not end such a text. -/
lemma Pointed.append_inj {u v x y : List Char} (hu : Pointed u) (hv : Pointed v) (hx : Follows x)
    (hy : Follows y) (h : u ++ x = v ++ y) : x = y := by
  have hpoint : ∀ z, Follows ('.' :: z) := fun _ => follows_cons.mpr rfl
  cases hu with
  | word hu hletter =>
    cases hv with
    | word hv _ => exact (append_inj_of_word hu hv hx hy h).2
    | point _ hv _ =>
      rw [List.append_assoc] at h
      obtain ⟨rfl, -⟩ := append_inj_of_word hu (fun c hc => (hv c hc).1) hx (hpoint _) h
      obtain ⟨c, hc, halpha⟩ := hletter
      exact absurd halpha (hv c hc).2
  | point _ hu hu' =>
    rw [List.append_assoc] at h
    cases hv with
    | word hv hletter =>
      obtain ⟨rfl, -⟩ := append_inj_of_word (fun c hc => (hu c hc).1) hv (hpoint _) hy h
      obtain ⟨c, hc, halpha⟩ := hletter
      exact absurd halpha (hu c hc).2
    | point _ hv hv' =>
      rw [List.append_assoc] at h
      obtain ⟨-, hrest⟩ := append_inj_of_word (fun c hc => (hu c hc).1) (fun c hc => (hv c hc).1)
        (hpoint _) (hpoint _) h
      exact (append_inj_of_word hu' hv' hx hy (List.tail_eq_of_cons_eq hrest)).2

/-! ### Digits -/

lemma mem_toDigits {b n : Nat} (hb : 1 < b) {c : Char} (hc : c ∈ Nat.toDigits b n) :
    ∃ d < b, c = d.digitChar := by
  induction n using Nat.strongRecOn with
  | ind n ih =>
    rw [Nat.toDigits_eq_if hb] at hc
    split_ifs at hc with hn
    · exact ⟨n, hn, List.mem_singleton.mp hc⟩
    · rcases List.mem_append.mp hc with hc | hc
      · exact ih (n / b) (Nat.div_lt_self (by omega) hb) hc
      · exact ⟨n % b, Nat.mod_lt n (by omega), List.mem_singleton.mp hc⟩

lemma digitChar_inj : ∀ d < 16, ∀ e < 16, Nat.digitChar d = Nat.digitChar e → d = e := by
  decide

/-- Digits are no separators. -/
lemma isSeparator_of_mem_toDigits {b n : Nat} (hb : 1 < b) (hb' : b ≤ 16) {c : Char}
    (hc : c ∈ Nat.toDigits b n) : isSeparator c = false := by
  have hdigit : ∀ d < 16, isSeparator (Nat.digitChar d) = false := by decide
  obtain ⟨d, hd, rfl⟩ := mem_toDigits hb hc
  exact hdigit d (by omega)

/-- Numbers with the same digits are equal. -/
lemma toDigits_inj {b m n : Nat} (hb : 1 < b) (hb' : b ≤ 16)
    (h : Nat.toDigits b m = Nat.toDigits b n) : m = n := by
  induction m using Nat.strongRecOn generalizing n with
  | ind m ih =>
    rw [Nat.toDigits_eq_if hb, Nat.toDigits_eq_if (n := n) hb] at h
    split_ifs at h with hm hn hn
    · exact digitChar_inj m (by omega) n (by omega) (List.singleton_inj.mp h)
    · simp [List.singleton_eq_append_iff] at h
    · simp [List.append_eq_singleton_iff] at h
    · obtain ⟨hdiv, hmod⟩ := List.append_inj' h rfl
      have hquot := ih (m / b) (Nat.div_lt_self (by omega) hb) hdiv
      have hrem := digitChar_inj _ ((Nat.mod_lt m (by omega)).trans_le hb') _
        ((Nat.mod_lt n (by omega)).trans_le hb') (List.singleton_inj.mp hmod)
      rw [← Nat.div_add_mod m b, ← Nat.div_add_mod n b, hquot, hrem]

/-! ### Quoted texts -/

/-- The character that a backslash and a letter other than `u` stand for. -/
def shortEscape (d : Char) : Char :=
  if d = '0' then '\x00' else if d = 't' then '\t' else if d = 'n' then '\n'
  else if d = 'r' then '\r' else d

/-- The three ways in which a character is written. -/
lemma escape_cases (q : Quote) (c : Char) :
    (escape q c = [c] ∧ c ≠ '\\' ∧ c ≠ q.mark) ∨
      (∃ d, escape q c = ['\\', d] ∧ d ≠ 'u' ∧ shortEscape d = c) ∨ escape q c = escapeCode c := by
  rw [escape]
  split_ifs with h₁ h₂ h₃ h₄ h₅ h₆ h₇
  · exact Or.inr (Or.inl ⟨'0', rfl, by decide, h₁ ▸ rfl⟩)
  · exact Or.inr (Or.inl ⟨'t', rfl, by decide, h₂ ▸ rfl⟩)
  · exact Or.inr (Or.inl ⟨'n', rfl, by decide, h₃ ▸ rfl⟩)
  · exact Or.inr (Or.inl ⟨'r', rfl, by decide, h₄ ▸ rfl⟩)
  · exact Or.inr (Or.inl ⟨'\\', rfl, by decide, by rw [h₅]; rfl⟩)
  · refine Or.inr (Or.inl ⟨c, rfl, ?_, ?_⟩)
    · rw [h₆]
      cases q <;> decide
    · rw [h₆]
      cases q <;> rfl
  · exact Or.inl ⟨rfl, h₅, h₆⟩
  · exact Or.inr (Or.inr rfl)

lemma escapeCode_append_inj {c d : Char} {x y : List Char}
    (h : escapeCode c ++ x = escapeCode d ++ y) : c = d ∧ x = y := by
  simp only [escapeCode, List.cons_append, List.append_assoc, List.nil_append, List.cons.injEq,
    true_and] at h
  have hdigits : ∀ e : Char, ∀ a ∈ Nat.toDigits 16 e.toNat, isSeparator a = false :=
    fun e a => isSeparator_of_mem_toDigits (by decide) (by decide)
  obtain ⟨hcode, hrest⟩ := append_inj_of_word (hdigits c) (hdigits d) (follows_cons.mpr rfl)
    (follows_cons.mpr rfl) h
  have hc : c.toNat = d.toNat := toDigits_inj (by decide) (by decide) hcode
  exact ⟨Char.toNat_inj.mp hc, List.tail_eq_of_cons_eq hrest⟩

/-- No written form of a character starts another one. -/
lemma escape_append_inj {q : Quote} {c d : Char} {x y : List Char}
    (h : escape q c ++ x = escape q d ++ y) : c = d ∧ x = y := by
  rcases escape_cases q c with ⟨hc, hc', -⟩ | ⟨c', hc, hu, rfl⟩ | hc <;>
    rcases escape_cases q d with ⟨hd, hd', -⟩ | ⟨d', hd, hu', rfl⟩ | hd <;>
    rw [hc, hd] at h
  · simpa using h
  · simp [hc'] at h
  · simp [hc', escapeCode] at h
  · simp [hd'.symm] at h
  · simp only [List.cons_append, List.nil_append, List.cons.injEq, true_and] at h
    exact ⟨by rw [h.1], h.2⟩
  · simp [hu, escapeCode] at h
  · simp [hd'.symm, escapeCode] at h
  · simp [hu'.symm, escapeCode] at h
  · exact escapeCode_append_inj h

lemma escape_ne_mark {q : Quote} {c : Char} {x y : List Char} : escape q c ++ x ≠ q.mark :: y := by
  have hmark : '\\' ≠ q.mark := by cases q <;> decide
  rcases escape_cases q c with ⟨hc, -, hc'⟩ | ⟨d, hc, -, -⟩ | hc
  · simp [hc, hc']
  · simp [hc, hmark]
  · simp [hc, escapeCode, hmark]

/-- A quoted text ends with its closing quote. -/
lemma quote_append_inj {q : Quote} {cs ds x y : List Char}
    (h : quote q cs ++ x = quote q ds ++ y) : cs = ds ∧ x = y := by
  simp only [quote, List.cons_append, List.append_assoc, List.nil_append, List.cons.injEq,
    true_and] at h
  -- character by character: none is written with the closing quote in front
  induction cs generalizing ds with
  | nil =>
    cases ds with
    | nil => simpa using h
    | cons d ds =>
      rw [List.flatMap_cons, List.append_assoc] at h
      exact absurd h.symm escape_ne_mark
  | cons c cs ih =>
    rw [List.flatMap_cons, List.append_assoc] at h
    cases ds with
    | nil => exact absurd h escape_ne_mark
    | cons d ds =>
      rw [List.flatMap_cons, List.append_assoc] at h
      obtain ⟨rfl, hrest⟩ := escape_append_inj h
      obtain ⟨rfl, rfl⟩ := ih hrest
      exact ⟨rfl, rfl⟩

lemma quote_injective (q : Quote) : Function.Injective (quote q) := by
  intro cs ds h
  have happend : quote q cs ++ [] = quote q ds ++ [] := by rw [h]
  exact (quote_append_inj happend).1

/-! ### Legible renderings -/

/-- A rendering that can be told from what follows it. -/
structure Legible {α : Type} (f : α → String) : Prop where
  starts (a : α) : ∃ c r, (f a).toList = c :: r ∧ isSeparator c = false
  rest_eq {a b : α} {x y : List Char} (hx : Follows x) (hy : Follows y)
    (h : (f a).toList ++ x = (f b).toList ++ y) : x = y

section

variable {α β : Type} {f : α → String}

namespace Legible

lemma text_eq (hf : Legible f) {a b : α} {x y : List Char} (hx : Follows x) (hy : Follows y)
    (h : (f a).toList ++ x = (f b).toList ++ y) : f a = f b := by
  obtain rfl := hf.rest_eq hx hy h
  exact String.toList_inj.mp (List.append_cancel_right h)

lemma comp (hf : Legible f) (g : β → α) : Legible fun b => f (g b) :=
  ⟨fun b => hf.starts (g b), hf.rest_eq⟩

lemma of_words (hne : ∀ a, (f a).toList ≠ [])
    (hword : ∀ a, ∀ c ∈ (f a).toList, isSeparator c = false) : Legible f where
  starts a := by
    obtain ⟨c, r, heq⟩ := List.exists_cons_of_ne_nil (hne a)
    exact ⟨c, r, heq, hword a c (by simp [heq])⟩
  rest_eq hx hy h := (append_inj_of_word (hword _) (hword _) hx hy h).2

lemma of_pointed (h : ∀ a, Pointed (f a).toList) :
    Legible f where
  starts a := by
    have hstart : ∀ {u : List Char}, Pointed u → ∃ c r, u = c :: r ∧ isSeparator c = false := by
      intro u hu
      cases hu with
      | word hu hletter =>
        obtain ⟨c, hc, -⟩ := hletter
        obtain ⟨c', r, rfl⟩ := List.exists_cons_of_ne_nil (List.ne_nil_of_mem hc)
        exact ⟨c', r, rfl, hu c' (by simp)⟩
      | point hne hu _ =>
        obtain ⟨c, r, rfl⟩ := List.exists_cons_of_ne_nil hne
        exact ⟨c, _, rfl, (hu c (by simp)).1⟩
    exact hstart (h a)
  rest_eq hx hy heq := (h _).append_inj (h _) hx hy heq

lemma of_quotes (q : Quote) {g : α → List Char} (hg : ∀ a, (f a).toList = quote q (g a)) :
    Legible f where
  starts a := ⟨q.mark, _, hg a, by cases q <;> rfl⟩
  rest_eq _ _ h := by
    rw [hg, hg] at h
    exact (quote_append_inj h).2

end Legible

lemma toString_nat_injective : Function.Injective fun n : Nat => toString n := by
  intro m n h
  simp only [Nat.toString_eq_ofList_toDigits, String.ofList_inj] at h
  exact toDigits_inj (by decide) (by decide) h

lemma legible_nat : Legible fun n : Nat => toString n := by
  apply Legible.of_words
  · intro n
    simp
  · intro n c hc
    rw [Nat.toString_eq_ofList_toDigits, String.toList_ofList] at hc
    exact isSeparator_of_mem_toDigits (by decide) (by decide) hc

/-- An integer is written with a sign, if it is negative, and digits. -/
lemma toList_toString_int (n : Int) :
    (toString n).toList = (if 0 ≤ n then [] else ['-']) ++ Nat.toDigits 10 n.natAbs := by
  rw [show toString n = n.repr from rfl, Int.repr_eq_if]
  split_ifs with hn
  · rw [Nat.repr_eq_ofList_toDigits, String.toList_ofList, ← Int.natAbs_of_nonneg hn]
    rfl
  · rw [Nat.repr_eq_ofList_toDigits, show (-n).toNat = n.natAbs by omega]
    simp

lemma toString_int_injective : Function.Injective fun n : Int => toString n := by
  intro m n h
  -- a sign is no digit, so both are negative or none is
  have hsign : ∀ i : Nat, '-' ∉ Nat.toDigits 10 i := by
    intro i hi
    obtain ⟨d, hd, heq⟩ := mem_toDigits (by decide) hi
    exact absurd heq ((by decide : ∀ d < 10, '-' ≠ Nat.digitChar d) d hd)
  have hlist := congrArg String.toList h
  simp only [toList_toString_int] at hlist
  split_ifs at hlist with hm hn hn
  · have := toDigits_inj (by decide) (by decide) hlist
    omega
  · exact absurd (by rw [List.nil_append] at hlist; simp [hlist]) (hsign m.natAbs)
  · exact absurd (by rw [List.nil_append] at hlist; simp [← hlist]) (hsign n.natAbs)
  · have := toDigits_inj (by decide) (by decide) (List.append_cancel_left hlist)
    omega

lemma legible_int : Legible fun n : Int => toString n := by
  apply Legible.of_words
  · intro n
    rw [toList_toString_int]
    simp [Nat.toDigits_ne_nil]
  · intro n c hc
    rw [toList_toString_int] at hc
    rcases List.mem_append.mp hc with hc | hc
    · split_ifs at hc with hn
      · simp at hc
      · rw [List.mem_singleton.mp hc]
        decide
    · exact isSeparator_of_mem_toDigits (by decide) (by decide) hc

lemma legible_quoteString : Legible quoteString :=
  Legible.of_quotes .double fun s => String.toList_ofList (l := quote .double s.toList)

lemma quoteString_injective : Function.Injective quoteString := by
  intro s t h
  exact String.toList_inj.mp (quote_injective .double (String.ofList_inj.mp h))

lemma legible_quoteChar : Legible quoteChar :=
  Legible.of_quotes .single fun c => String.toList_ofList (l := quote .single [c])

lemma quoteChar_injective : Function.Injective quoteChar := by
  intro c d h
  exact List.singleton_inj.mp (quote_injective .single (String.ofList_inj.mp h))

/-! ### Lists -/

/-- Texts, each behind a separator. -/
def behind (sep : Char) (us : List String) : List Char := us.flatMap fun u => sep :: u.toList

lemma behind_cons (sep : Char) (u : String) (us : List String) :
    behind sep (u :: us) = sep :: (u.toList ++ behind sep us) := by
  simp [behind]

lemma cons_intercalate (sep : Char) (u : String) (us : List String) :
    sep :: [sep].intercalate ((u :: us).map String.toList) = behind sep (u :: us) := by
  induction us generalizing u with
  | nil => simp [behind]
  | cons v us ih =>
    rw [behind_cons, ← ih, List.map_cons, List.map_cons, List.intercalate_cons_cons]
    simp

lemma follows_behind {sep : Char} (hsep : isSeparator sep = true) (us : List String)
    {x : List Char} (hx : Follows x) : Follows (behind sep us ++ x) := by
  cases us with
  | nil => exact hx
  | cons u us =>
    rw [behind_cons, List.cons_append, follows_cons]
    exact hsep

namespace Legible

/-- Lists of legible texts can be told from what follows them. -/
lemma behind_append_inj (hf : Legible f) {sep : Char} (hsep : isSeparator sep = true)
    {us vs : List String} (hus : ∀ u ∈ us, ∃ a, f a = u) (hvs : ∀ v ∈ vs, ∃ a, f a = v)
    {x y : List Char} (hx : Follows x) (hy : Follows y) (hxs : x.head? ≠ some sep)
    (hys : y.head? ≠ some sep) (h : behind sep us ++ x = behind sep vs ++ y) :
    us = vs ∧ x = y := by
  induction us generalizing vs with
  | nil =>
    cases vs with
    | nil => exact ⟨rfl, h⟩
    | cons v vs =>
      rw [behind_cons] at h
      exact absurd (congrArg List.head? h) hxs
  | cons u us ih =>
    cases vs with
    | nil =>
      rw [behind_cons] at h
      exact absurd (congrArg List.head? h).symm hys
    | cons v vs =>
      rw [List.forall_mem_cons] at hus hvs
      obtain ⟨⟨a, rfl⟩, hus⟩ := hus
      obtain ⟨⟨b, rfl⟩, hvs⟩ := hvs
      simp only [behind_cons, List.cons_append, List.append_assoc, List.cons.injEq, true_and] at h
      have hfx := follows_behind hsep us hx
      have hfy := follows_behind hsep vs hy
      obtain ⟨rfl, rfl⟩ := ih hus hvs (hf.rest_eq hfx hfy h)
      exact ⟨by rw [hf.text_eq hfx hfy h], rfl⟩

/-- The same with separators only between the texts. -/
lemma intercalate_append_inj (hf : Legible f) {sep : Char} (hsep : isSeparator sep = true)
    {us vs : List String} (hus : ∀ u ∈ us, ∃ a, f a = u) (hvs : ∀ v ∈ vs, ∃ a, f a = v)
    {x y : List Char} (hx : Follows x) (hy : Follows y) (hxs : x.head? ≠ some sep)
    (hys : y.head? ≠ some sep)
    (h : [sep].intercalate (us.map String.toList) ++ x
      = [sep].intercalate (vs.map String.toList) ++ y) : us = vs ∧ x = y := by
  -- no text can be missing at the start, since texts do not start with a separator
  have hempty : ∀ {w : String} {ws : List String} {z z' : List Char}, (∃ a, f a = w) → Follows z →
      z ≠ [sep].intercalate ((w :: ws).map String.toList) ++ z' := by
    rintro - ws z z' ⟨a, rfl⟩ hz rfl
    obtain ⟨c, r, hstart, hc⟩ := hf.starts a
    rw [List.map_cons, hstart, List.intercalate_cons_cons_left, List.cons_append,
      follows_cons, hc] at hz
    exact Bool.false_ne_true hz
  cases us with
  | nil =>
    cases vs with
    | nil => exact ⟨rfl, h⟩
    | cons v vs => exact absurd h (hempty (hvs v (by simp)) hx)
  | cons u us =>
    cases vs with
    | nil => exact absurd h.symm (hempty (hus u (by simp)) hy)
    | cons v vs =>
      apply hf.behind_append_inj hsep hus hvs hx hy hxs hys
      rw [← cons_intercalate, ← cons_intercalate, List.cons_append, List.cons_append, h]

end Legible

end

/-! ### Sorted texts -/

lemma perm_sort (us : List String) : (sort us).Perm us :=
  List.mergeSort_perm us _

lemma mem_sort {u : String} {us : List String} : u ∈ sort us ↔ u ∈ us :=
  (perm_sort us).mem_iff

lemma exists_of_mem_sort {α : Type} {f : α → String} {l : List α} {u : String}
    (hu : u ∈ sort (l.map f)) : ∃ a, f a = u := by
  obtain ⟨a, -, ha⟩ := List.mem_map.mp (mem_sort.mp hu)
  exact ⟨a, ha⟩

/-- What is rendered to the same sorted texts has the same renderings. -/
lemma exists_of_sort_eq {α : Type} {f : α → String} {l l' : List α}
    (h : sort (l.map f) = sort (l'.map f)) {a : α} (ha : a ∈ l) : ∃ a' ∈ l', f a' = f a := by
  have hmem : f a ∈ sort (l.map f) := mem_sort.mpr (List.mem_map_of_mem ha)
  rw [h, mem_sort] at hmem
  exact List.mem_map.mp hmem

lemma pairwise_sort (us : List String) : (sort us).Pairwise (· ≤ ·) := by
  have hsorted : (sort us).Pairwise fun a b => decide (a ≤ b) = true := by
    apply List.pairwise_mergeSort
    · intro a b c
      simpa using le_trans
    · intro a b
      simpa using le_total a b
  simpa using hsorted

/-- Sorting forgets the order. -/
lemma sort_eq_of_perm {us vs : List String} (h : us.Perm vs) : sort us = sort vs := by
  have hperm := ((perm_sort us).trans h).trans (perm_sort vs).symm
  exact hperm.eq_of_pairwise (fun _ _ _ _ => le_antisymm) (pairwise_sort us) (pairwise_sort vs)

lemma mem_eraseReps {α : Type} [BEq α] [LawfulBEq α] {a : α} {l : List α} :
    a ∈ l.eraseReps ↔ a ∈ l := by
  have hloop : ∀ (b : α) (l acc : List α),
      a ∈ List.eraseRepsBy.loop (· == ·) b l acc ↔ a ∈ acc ∨ a = b ∨ a ∈ l := by
    intro b l
    induction l generalizing b with
    | nil => intro acc; simp [List.eraseRepsBy.loop, or_comm]
    | cons c l ih =>
      intro acc
      rw [List.eraseRepsBy.loop]
      split
      · next hbc => simp [ih, eq_of_beq hbc]
      · simp only [ih, List.mem_cons]
        tauto
  cases l with
  | nil => rfl
  | cons b l => simp [List.eraseReps, List.eraseRepsBy, hloop]

/-- Without repeats, sorted texts increase strictly. -/
lemma pairwise_lt_eraseReps {us : List String} (h : us.Pairwise (· ≤ ·)) :
    us.eraseReps.Pairwise (· < ·) := by
  -- what was kept so far is in reverse order, and below what comes next
  have hloop : ∀ (b : String) (l acc : List String), (b :: l).Pairwise (· ≤ ·) →
      (b :: acc).Pairwise (· > ·) →
        (List.eraseRepsBy.loop (· == ·) b l acc).Pairwise (· < ·) := by
    intro b l
    induction l generalizing b with
    | nil => exact fun acc _ hacc => List.pairwise_reverse.mpr hacc
    | cons c l ih =>
      intro acc hl hacc
      rw [List.eraseRepsBy.loop]
      split
      · exact ih b acc (hl.sublist ((List.sublist_cons_self c l).cons_cons b)) hacc
      · next hbc =>
        have hlt : b < c :=
          lt_of_le_of_ne ((List.pairwise_cons.mp hl).1 c List.mem_cons_self) (by simpa using hbc)
        refine ih c (b :: acc) hl.of_cons (List.pairwise_cons.mpr ⟨?_, hacc⟩)
        intro a ha
        rcases List.mem_cons.mp ha with rfl | ha
        · exact hlt
        · exact lt_trans ((List.pairwise_cons.mp hacc).1 a ha) hlt
  cases us with
  | nil => exact List.Pairwise.nil
  | cons b l => exact hloop b l [] h (List.pairwise_singleton _ b)

/-- Sorting and dropping repeats forgets all but which texts there are. -/
lemma eraseReps_sort_eq {us vs : List String} (h : ∀ u, u ∈ us ↔ u ∈ vs) :
    (sort us).eraseReps = (sort vs).eraseReps := by
  have hus := pairwise_lt_eraseReps (pairwise_sort us)
  have hvs := pairwise_lt_eraseReps (pairwise_sort vs)
  have hperm : (sort us).eraseReps.Perm (sort vs).eraseReps := by
    rw [List.perm_ext_iff_of_nodup (hus.imp ne_of_lt) (hvs.imp ne_of_lt)]
    simpa [mem_eraseReps, mem_sort] using h
  exact hperm.eq_of_pairwise (fun _ _ _ _ hab hba => absurd hba (lt_asymm hab)) hus hvs

end StateMachine.Text
