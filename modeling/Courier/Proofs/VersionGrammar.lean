import Courier.Proofs.PlainTexts
import Courier.Version
import Mathlib

/-!
# The tags that are versions

A tag begins with blanks if it likes, then one `v` of either case if it likes, and then there
have to be numbers between dots. What comes after them is nobody's business, as long as it does
not go on with a digit, or with a dot and a digit: the numbers are the longest that fit.

The reader goes through the text once and looks one character past each dot. That this finds the
longest run comes down to one fact, `numberRun_append`: a run is found whole wherever it is not
continued. The digits of all scripts belong to a run, but only numbers in ASCII digits that fit a
word are read, so that a run may be found and the tag be refused for it.
-/

namespace Courier.Version

open Text (isBlank isBlank_of_isDecimal isDecimal Trims)

/-- Groups of decimal digits, at least one. -/
def Digits (groups : List (List Char)) : Prop :=
  groups ≠ [] ∧ ∀ g ∈ groups, g ≠ [] ∧ ∀ c ∈ g, isDecimal c = true

/-- The groups with dots between them. -/
def dotted (groups : List (List Char)) : List Char := ['.'].intercalate groups

/-- A digit, or a dot and a digit: a run that this follows goes on. -/
def Continues (cs : List Char) : Prop :=
  ∃ d rest, isDecimal d = true ∧ (cs = d :: rest ∨ cs = '.' :: d :: rest)

/-- After blanks and at most one `v` the longest run in `cs` is that of these groups. -/
structure Begins (cs : List Char) (groups : List (List Char)) : Prop where
  digits : Digits groups
  parts : ∃ blanks mark rest, cs = blanks ++ mark ++ dotted groups ++ rest ∧
    (∀ c ∈ blanks, isBlank c = true) ∧ mark ∈ [[], ['v'], ['V']] ∧
    ∀ longer, Digits longer → dotted longer <+: dotted groups ++ rest →
      (dotted longer).length ≤ (dotted groups).length

/-- A component is a number in ASCII digits that fits 64 bits. -/
def Counts (g : List Char) (n : Nat) : Prop :=
  (∀ c ∈ g, c.toNat < 128) ∧ n = Nat.ofDigits 10 (g.reverse.map fun c => c.toNat - '0'.toNat) ∧
    n < 2 ^ 64

/-! ## Runs -/

variable {groups : List (List Char)} {cs rest : List Char}

theorem isDecimal_dot : isDecimal '.' = false := by decide

theorem ne_dot {c : Char} (h : isDecimal c = true) : c ≠ '.' := by
  rintro rfl
  rw [isDecimal_dot] at h
  cases h

theorem numberRun_cons_digit {c : Char} (h : isDecimal c = true) (cs : List Char) :
    numberRun (c :: cs) = c :: numberRun cs := by
  rw [numberRun.eq_def]
  exact if_pos h

theorem numberRun_dot_digit {d : Char} (h : isDecimal d = true) (cs : List Char) :
    numberRun ('.' :: d :: cs) = '.' :: numberRun (d :: cs) := by
  rw [numberRun.eq_def]
  simp only [isDecimal_dot, Bool.false_eq_true, if_false, if_true]
  exact if_pos h

theorem numberRun_of_not_continues (h : ¬ Continues cs) : numberRun cs = [] := by
  cases cs with
  | nil => rfl
  | cons c cs =>
      have hc : ¬ isDecimal c = true := fun hc => h ⟨c, cs, hc, .inl rfl⟩
      rw [numberRun.eq_def]
      simp only [if_neg hc]
      split
      · next hdot =>
          subst hdot
          cases cs with
          | nil => rfl
          | cons d cs => exact if_neg fun hd => h ⟨d, cs, hd, .inr rfl⟩
      · rfl

theorem dotted_cons_cons (g h : List Char) (groups : List (List Char)) :
    dotted (g :: h :: groups) = g ++ '.' :: dotted (h :: groups) := by
  simp [dotted]

theorem numberRun_digits {g : List Char} (hg : ∀ c ∈ g, isDecimal c = true) (rest : List Char) :
    numberRun (g ++ rest) = g ++ numberRun rest := by
  induction g with
  | nil => rfl
  | cons c g ih =>
      obtain ⟨hc, hg⟩ := List.forall_mem_cons.1 hg
      rw [List.cons_append, numberRun_cons_digit hc, ih hg, List.cons_append]

theorem exists_head (h : Digits groups) :
    ∃ c tail, dotted groups = c :: tail ∧ isDecimal c = true := by
  obtain ⟨g, groups, rfl⟩ := List.exists_cons_of_ne_nil h.1
  obtain ⟨hne, hg⟩ := h.2 g List.mem_cons_self
  obtain ⟨c, g, rfl⟩ := List.exists_cons_of_ne_nil hne
  exact ⟨c, _, List.intercalate_cons_cons_left, hg c List.mem_cons_self⟩

/-- A run is found whole where nothing continues it. -/
theorem numberRun_append (h : Digits groups) (hrest : ¬ Continues rest) :
    numberRun (dotted groups ++ rest) = dotted groups := by
  obtain ⟨hne, hall⟩ := h
  induction groups with
  | nil => exact absurd rfl hne
  | cons g groups ih =>
      obtain ⟨⟨-, hg⟩, hgroups⟩ := List.forall_mem_cons.1 hall
      cases groups with
      | nil =>
          rw [dotted, List.intercalate_singleton, numberRun_digits hg,
            numberRun_of_not_continues hrest, List.append_nil]
      | cons g' groups =>
          have hne' : g' :: groups ≠ [] := List.cons_ne_nil _ _
          have hrun := ih hne' hgroups
          -- After the dot the next group begins with a digit.
          obtain ⟨d, tail, htail, hd⟩ := exists_head ⟨hne', hgroups⟩
          rw [htail, List.cons_append] at hrun
          rw [dotted_cons_cons, htail, List.append_assoc, List.cons_append, List.cons_append,
            numberRun_digits hg, numberRun_dot_digit hd, hrun]

theorem numberRun_dotted (h : Digits groups) : numberRun (dotted groups) = dotted groups := by
  have hnil : ¬ Continues [] := by
    rintro ⟨d, rest, -, h | h⟩ <;> cases h
  have hrun := numberRun_append h hnil
  rwa [List.append_nil] at hrun

theorem Continues.append (h : Continues cs) (rest : List Char) : Continues (cs ++ rest) := by
  obtain ⟨d, tail, hd, rfl | rfl⟩ := h
  · exact ⟨d, tail ++ rest, hd, .inl rfl⟩
  · exact ⟨d, tail ++ rest, hd, .inr rfl⟩

/-- A digit at the head begins a run that nothing continues. -/
theorem exists_dotted_append {c : Char} (hc : isDecimal c = true) (cs : List Char) :
    ∃ groups rest, c :: cs = dotted groups ++ rest ∧ Digits groups ∧ ¬ Continues rest := by
  induction hn : cs.length using Nat.strong_induction_on generalizing c cs with
  | _ n ih =>
      by_cases hcont : Continues cs
      · obtain ⟨d, tail, hd, hcs⟩ := hcont
        have hlt : tail.length < n := by
          rcases hcs with rfl | rfl <;> simp at hn <;> omega
        obtain ⟨groups, rest, hdot, ⟨hne, hall⟩, hrest⟩ := ih tail.length hlt hd tail rfl
        obtain ⟨g, groups, rfl⟩ := List.exists_cons_of_ne_nil hne
        rcases hcs with rfl | rfl
        · obtain ⟨⟨-, hg⟩, hgroups⟩ := List.forall_mem_cons.1 hall
          refine ⟨(c :: g) :: groups, rest, ?_, ⟨List.cons_ne_nil _ _, ?_⟩, hrest⟩
          · rw [hdot, dotted, dotted, List.intercalate_cons_cons_left, List.cons_append]
          · exact List.forall_mem_cons.2
              ⟨⟨List.cons_ne_nil _ _, List.forall_mem_cons.2 ⟨hc, hg⟩⟩, hgroups⟩
        · refine ⟨[c] :: g :: groups, rest, ?_, ⟨List.cons_ne_nil _ _, ?_⟩, hrest⟩
          · rw [dotted_cons_cons, hdot]
            rfl
          · refine List.forall_mem_cons.2 ⟨⟨List.cons_ne_nil _ _, ?_⟩, hall⟩
            exact List.forall_mem_singleton.2 hc
      · refine ⟨[[c]], cs, ?_, ⟨List.cons_ne_nil _ _, ?_⟩, hcont⟩
        · rw [dotted, List.intercalate_singleton, List.singleton_append]
        · exact List.forall_mem_singleton.2
            ⟨List.cons_ne_nil _ _, List.forall_mem_singleton.2 hc⟩

/-- Where nothing continues a run it is the longest. -/
theorem length_le_of_prefix {longer : List (List Char)} (h : Digits groups)
    (hrest : ¬ Continues rest) (hlonger : Digits longer)
    (hstart : dotted longer <+: dotted groups ++ rest) :
    (dotted longer).length ≤ (dotted groups).length := by
  obtain ⟨after, hafter⟩ := hstart
  rcases List.append_eq_append_iff.1 hafter with ⟨more, hmore, -⟩ | ⟨more, hmore, hsplit⟩
  · rw [hmore, List.length_append]
    exact Nat.le_add_right _ _
  · have hcont : ¬ Continues more := by
      intro hcont
      rw [hsplit] at hrest
      exact hrest (hcont.append after)
    have hrun := numberRun_append h hcont
    rw [← hmore, numberRun_dotted hlonger] at hrun
    rw [hrun]

/-- The longest run is the one that nothing continues. -/
theorem begins_iff : Begins cs groups ↔ Digits groups ∧ ∃ blanks mark rest,
    cs = blanks ++ mark ++ dotted groups ++ rest ∧ (∀ c ∈ blanks, isBlank c = true) ∧
      mark ∈ [[], ['v'], ['V']] ∧ ¬ Continues rest := by
  constructor
  · rintro ⟨hdigits, blanks, mark, rest, hcs, hblanks, hmark, hlongest⟩
    refine ⟨hdigits, blanks, mark, rest, hcs, hblanks, hmark, fun hcont => ?_⟩
    obtain ⟨c, tail, htail, hc⟩ := exists_head hdigits
    obtain ⟨groups', rest', hdot, hdigits', hrest'⟩ := exists_dotted_append hc (tail ++ rest)
    rw [← List.cons_append, ← htail] at hdot
    have hle := hlongest groups' hdigits' ⟨rest', hdot.symm⟩
    have hge := length_le_of_prefix hdigits' hrest' hdigits ⟨rest, hdot⟩
    obtain ⟨-, hrest⟩ := List.append_inj hdot (Nat.le_antisymm hge hle)
    rw [hrest] at hcont
    exact hrest' hcont
  · rintro ⟨hdigits, blanks, mark, rest, hcs, hblanks, hmark, hrest⟩
    exact ⟨hdigits, blanks, mark, rest, hcs, hblanks, hmark,
      fun longer => length_le_of_prefix hdigits hrest⟩

/-! ## The head of a tag -/

theorem dropWhile_blank_of_ne {c : Char} (hc : isBlank c = false) (cs : List Char) :
    (c :: cs).dropWhile isBlank = c :: cs :=
  List.dropWhile_cons_of_neg (by rw [hc]; exact Bool.false_ne_true)

/-- Neither blanks nor a mark are part of what is read. -/
theorem body_append {blanks mark : List Char} {c : Char} (hblanks : ∀ b ∈ blanks, isBlank b = true)
    (hmark : mark ∈ [[], ['v'], ['V']]) (hc : isDecimal c = true) (cs : List Char) :
    body (blanks ++ (mark ++ c :: cs)) = c :: cs := by
  unfold body
  rw [List.dropWhile_append_of_pos hblanks]
  simp only [List.mem_cons, List.not_mem_nil, or_false] at hmark
  rcases hmark with rfl | rfl | rfl
  · rw [List.nil_append, dropWhile_blank_of_ne (isBlank_of_isDecimal hc)]
    split
    · next heq =>
        cases heq
        cases hc
    · next heq =>
        cases heq
        cases hc
    · rfl
  · rfl
  · rfl

theorem exists_eq_append_body (cs : List Char) : ∃ blanks mark,
    cs = blanks ++ mark ++ body cs ∧ (∀ b ∈ blanks, isBlank b = true) ∧
      mark ∈ [[], ['v'], ['V']] := by
  obtain ⟨mark, hmark, hbody⟩ : ∃ mark, mark ∈ [[], ['v'], ['V']] ∧
      cs.dropWhile isBlank = mark ++ body cs := by
    unfold body
    split
    · next heq => exact ⟨['v'], by simp, heq⟩
    · next heq => exact ⟨['V'], by simp, heq⟩
    · exact ⟨[], by simp, rfl⟩
  refine ⟨cs.takeWhile isBlank, mark, ?_, fun b => List.mem_takeWhile_imp, hmark⟩
  rw [List.append_assoc, ← hbody, List.takeWhile_append_dropWhile]

theorem begins_iff_body : Begins cs groups ↔
    Digits groups ∧ ∃ rest, body cs = dotted groups ++ rest ∧ ¬ Continues rest := by
  rw [begins_iff]
  refine and_congr_right fun hdigits => ⟨?_, ?_⟩
  · rintro ⟨blanks, mark, rest, rfl, hblanks, hmark, hrest⟩
    obtain ⟨c, tail, htail, hc⟩ := exists_head hdigits
    have hbody := body_append hblanks hmark hc (tail ++ rest)
    rw [← List.cons_append, ← htail, ← List.append_assoc, ← List.append_assoc] at hbody
    exact ⟨rest, hbody, hrest⟩
  · rintro ⟨rest, hbody, hrest⟩
    obtain ⟨blanks, mark, hcs, hblanks, hmark⟩ := exists_eq_append_body cs
    rw [hbody, ← List.append_assoc] at hcs
    exact ⟨blanks, mark, rest, hcs, hblanks, hmark, hrest⟩

/-- What is found at the head of a tag is its longest run. -/
theorem head?_eq_some_iff (run : List Char) :
    head? cs = some run ↔ ∃ groups, Begins cs groups ∧ run = dotted groups := by
  constructor
  · intro h
    unfold head? at h
    split at h
    · next c tail hbody =>
        obtain ⟨hc, hrun⟩ := Option.ite_none_right_eq_some.1 h
        obtain ⟨groups, rest, hdot, hdigits, hrest⟩ := exists_dotted_append hc tail
        rw [hdot, numberRun_append hdigits hrest] at hrun
        exact ⟨groups, begins_iff_body.2 ⟨hdigits, rest, hbody.trans hdot, hrest⟩,
          (Option.some.inj hrun).symm⟩
    · cases h
  · rintro ⟨groups, hbegins, rfl⟩
    obtain ⟨hdigits, rest, hbody, hrest⟩ := begins_iff_body.1 hbegins
    obtain ⟨c, tail, htail, hc⟩ := exists_head hdigits
    unfold head?
    rw [hbody, htail, List.cons_append]
    show (if isDecimal c then _ else _) = _
    rw [if_pos hc, ← List.cons_append, ← htail, numberRun_append hdigits hrest]

/-! ## The components -/

theorem split_eq_splitOn (mark : Char) (cs : List Char) : Text.split mark cs = cs.splitOn mark := by
  induction cs with
  | nil => rfl
  | cons c cs ih =>
      rw [List.splitOn_cons_eq_if_modifyHead, ← ih, Text.split]
      by_cases hc : c = mark
      · rw [if_pos hc, if_pos (beq_iff_eq.2 hc)]
      · rw [if_neg hc, if_neg (by simpa using hc)]
        obtain ⟨part, parts, hsplit⟩ := List.exists_cons_of_ne_nil (Text.split_ne_nil mark cs)
        rw [hsplit]
        rfl

theorem split_dotted (h : Digits groups) : Text.split '.' (dotted groups) = groups := by
  rw [split_eq_splitOn]
  exact List.splitOn_intercalate '.' (fun g hg hdot => ne_dot ((h.2 g hg).2 '.' hdot) rfl) h.1

theorem component?_eq_some_iff {g : List Char} {n : Nat} (hne : g ≠ [])
    (hg : ∀ c ∈ g, isDecimal c = true) : component? g = some n ↔ Counts g n := by
  rw [component?, Option.filter_eq_some_iff, Text.decimalValue?_eq_some_iff, decide_eq_true_iff]
  constructor
  · rintro ⟨hnum, hlt⟩
    exact ⟨fun c hc => Text.toNat_lt_of_digit (hnum.digits c hc), hnum.value, hlt⟩
  · rintro ⟨hascii, hvalue, hlt⟩
    refine ⟨⟨hne, fun c hc => ?_, hvalue⟩, hlt⟩
    exact (Text.isDecimal_iff_of_ascii (hascii c hc)).1 (hg c hc)

theorem mapM_component?_eq_some_iff (h : ∀ g ∈ groups, g ≠ [] ∧ ∀ c ∈ g, isDecimal c = true)
    (ns : List Nat) : groups.mapM component? = some ns ↔ List.Forall₂ Counts groups ns := by
  induction groups generalizing ns with
  | nil => cases ns <;> simp
  | cons g groups ih =>
      obtain ⟨⟨hne, hg⟩, hgroups⟩ := List.forall_mem_cons.1 h
      rw [List.mapM_cons]
      simp only [Option.bind_eq_bind, Option.bind_eq_some_iff, Option.pure_def, Option.some.injEq,
        component?_eq_some_iff hne hg, ih hgroups, List.forall₂_cons_left_iff]
      constructor
      · rintro ⟨n, hn, ns, hns, rfl⟩
        exact ⟨n, ns, hn, hns, rfl⟩
      · rintro ⟨n, ns, hn, hns, rfl⟩
        exact ⟨n, hn, ns, hns, rfl⟩

theorem parts?_eq_some_iff (ns : List Nat) :
    parts? cs = some ns ↔ ∃ groups, Begins cs groups ∧ List.Forall₂ Counts groups ns := by
  rw [parts?, Option.bind_eq_some_iff]
  constructor
  · rintro ⟨run, hrun, hns⟩
    obtain ⟨groups, hbegins, rfl⟩ := (head?_eq_some_iff run).1 hrun
    rw [split_dotted hbegins.digits] at hns
    exact ⟨groups, hbegins, (mapM_component?_eq_some_iff hbegins.digits.2 ns).1 hns⟩
  · rintro ⟨groups, hbegins, hns⟩
    refine ⟨dotted groups, (head?_eq_some_iff _).2 ⟨groups, hbegins, rfl⟩, ?_⟩
    rw [split_dotted hbegins.digits]
    exact (mapM_component?_eq_some_iff hbegins.digits.2 ns).2 hns

/-! ## What does not matter -/

/-- A run ends with a digit. -/
theorem exists_last (h : Digits groups) :
    ∃ init d, dotted groups = init ++ [d] ∧ isDecimal d = true := by
  obtain ⟨hne, hall⟩ := h
  induction groups with
  | nil => exact absurd rfl hne
  | cons g groups ih =>
      obtain ⟨⟨hg, hdigits⟩, hgroups⟩ := List.forall_mem_cons.1 hall
      cases groups with
      | nil =>
          refine ⟨g.dropLast, g.getLast hg, ?_, hdigits _ (List.getLast_mem hg)⟩
          rw [dotted, List.intercalate_singleton, List.dropLast_concat_getLast]
      | cons g' groups =>
          obtain ⟨init, d, hinit, hd⟩ := ih (List.cons_ne_nil _ _) hgroups
          refine ⟨g ++ '.' :: init, d, ?_, hd⟩
          rw [dotted_cons_cons, hinit, List.append_assoc, List.cons_append]

/-- Blanks before a tag do not matter. -/
theorem Begins.of_blanks_append {before : List Char} (h : Begins (before ++ cs) groups)
    (hbefore : ∀ b ∈ before, isBlank b = true) : Begins cs groups := by
  rw [begins_iff_body] at h ⊢
  have hbody : body (before ++ cs) = body cs := by
    unfold body
    rw [List.dropWhile_append_of_pos hbefore]
  rwa [hbody] at h

/-- Blanks after a tag do not matter: none of them belongs to a run. -/
theorem Begins.of_append_blanks {after : List Char} (h : Begins (cs ++ after) groups)
    (hafter : ∀ b ∈ after, isBlank b = true) : Begins cs groups := by
  obtain ⟨hdigits, blanks, mark, rest, hcs, hblanks, hmark, hrest⟩ := begins_iff.1 h
  refine begins_iff.2 ⟨hdigits, blanks, mark, ?_⟩
  rcases List.append_eq_append_iff.1 hcs with ⟨cut, hcut, hsplit⟩ | ⟨cut, hcut, hsplit⟩
  · have hnil : cut = [] := by
      obtain ⟨init, d, hinit, hd⟩ := exists_last hdigits
      by_contra hne
      have hlast := congrArg List.getLast? hcut
      rw [hinit, ← List.append_assoc, List.getLast?_concat,
        List.getLast?_append_of_ne_nil _ hne] at hlast
      have hmem : d ∈ after := by
        rw [hsplit]
        exact List.mem_append_left _ (List.mem_of_getLast? hlast.symm)
      cases (isBlank_of_isDecimal hd).symm.trans (hafter d hmem)
    subst hnil
    refine ⟨[], ?_, hblanks, hmark, ?_⟩
    · rw [List.append_nil] at hcut ⊢
      exact hcut.symm
    · rintro ⟨d, tail, -, h | h⟩ <;> cases h
  · refine ⟨cut, hcut, hblanks, hmark, fun hcont => hrest ?_⟩
    rw [hsplit]
    exact hcont.append after

/-- What comes after a tag does not matter, unless a run goes on with it. -/
theorem Begins.append {t : List Char} (h : Begins cs groups) (ht : ¬ Continues t) :
    Begins (cs ++ t) groups := by
  obtain ⟨hdigits, blanks, mark, rest, rfl, hblanks, hmark, hrest⟩ := begins_iff.1 h
  refine begins_iff.2 ⟨hdigits, blanks, mark, rest ++ t, List.append_assoc .., hblanks, hmark, ?_⟩
  rintro ⟨d, tail, hd, hcont⟩
  cases rest with
  | nil => exact ht ⟨d, tail, hd, hcont⟩
  | cons c rest =>
      rcases hcont with hcont | hcont
      · obtain ⟨rfl, -⟩ := List.cons.inj hcont
        exact hrest ⟨c, rest, hd, .inl rfl⟩
      · obtain ⟨rfl, hdigit⟩ := List.cons.inj hcont
        -- The dot may be the last character, and the digit the first one after it.
        cases rest with
        | nil => exact ht ⟨d, tail, hd, .inl hdigit⟩
        | cons c' rest =>
            obtain ⟨rfl, -⟩ := List.cons.inj hdigit
            exact hrest ⟨c', rest, hd, .inr rfl⟩

/-! ## The grammar -/

theorem parse_eq_ok_iff (s : String) (v : Version) : parse s = .ok v ↔
    Trims s v.tag ∧ ∃ groups, Begins s.toList groups ∧ List.Forall₂ Counts groups v.parts := by
  rw [← parts?_eq_some_iff, Text.trims_iff, parse, parse?]
  obtain ⟨tag, parts⟩ := v
  cases parts? s.toList <;> simp [eq_comm]

theorem exists_counts_iff (groups : List (List Char)) :
    (∃ ns, List.Forall₂ Counts groups ns) ↔ ∀ g ∈ groups, ∃ n, Counts g n := by
  induction groups with
  | nil => simp
  | cons g groups ih =>
      rw [List.forall_mem_cons, ← ih]
      simp only [List.forall₂_cons_left_iff]
      constructor
      · rintro ⟨_, n, ns, hn, hns, rfl⟩
        exact ⟨⟨n, hn⟩, ns, hns⟩
      · rintro ⟨⟨n, hn⟩, ns, hns⟩
        exact ⟨n :: ns, n, ns, hn, hns, rfl⟩

theorem exists_parse_eq_ok_iff (s : String) : (∃ v, parse s = .ok v) ↔
    ∃ groups, Begins s.toList groups ∧ ∀ g ∈ groups, ∃ n, Counts g n := by
  simp only [parse_eq_ok_iff, ← exists_counts_iff]
  constructor
  · rintro ⟨v, -, groups, hbegins, hparts⟩
    exact ⟨groups, hbegins, v.parts, hparts⟩
  · rintro ⟨groups, hbegins, ns, hns⟩
    exact ⟨⟨Text.trim s, ns⟩, Text.trims_iff.2 rfl, groups, hbegins, hns⟩

theorem parse_eq_error_iff (s : String) (e : Failure) : parse s = .error e ↔
    (¬ ∃ v, parse s = .ok v) ∧
      e = .general ("Could not parse Agent version [" ++ s ++ "]") := by
  unfold parse
  cases parse? s <;> simp [eq_comm]

/-- Which texts are read as versions, and as which. -/
structure ReadsTags : Prop where
  /-- The numbers are those of the longest run, each in ASCII digits and of 64 bits. -/
  accepted (s : String) (v : Version) : parse s = .ok v ↔
    Trims s v.tag ∧ ∃ groups, Begins s.toList groups ∧ List.Forall₂ Counts groups v.parts
  /-- Everything else is refused. -/
  refused (s : String) (e : Failure) : parse s = .error e ↔
    (¬ ∃ groups, Begins s.toList groups ∧ ∀ g ∈ groups, ∃ n, Counts g n) ∧
      e = .general ("Could not parse Agent version [" ++ s ++ "]")
  /-- What comes after the run does not count. -/
  appended (s t : String) (v : Version) : parse s = .ok v → ¬ Continues t.toList →
    ∃ v', parse (s ++ t) = .ok v' ∧ v'.parts = v.parts
  /-- A tag is read as the version it is from. -/
  again (s : String) (v : Version) : parse s = .ok v → parse v.tag = .ok v

theorem readsTags : ReadsTags where
  accepted := parse_eq_ok_iff
  refused s e := by rw [parse_eq_error_iff, exists_parse_eq_ok_iff]
  appended s t v h ht := by
    obtain ⟨-, groups, hbegins, hparts⟩ := (parse_eq_ok_iff s v).1 h
    refine ⟨⟨Text.trim (s ++ t), v.parts⟩, (parse_eq_ok_iff _ _).2 ⟨?_, groups, ?_, hparts⟩, rfl⟩
    · exact Text.trims_iff.2 rfl
    · rw [String.toList_append]
      exact hbegins.append ht
  again s v h := by
    obtain ⟨htrims, groups, hbegins, hparts⟩ := (parse_eq_ok_iff s v).1 h
    obtain ⟨before, after, hs, hbefore, hafter⟩ := htrims.parts
    rw [hs, List.append_assoc] at hbegins
    refine (parse_eq_ok_iff _ _).2 ⟨⟨⟨[], [], ?_⟩, htrims.first, htrims.last⟩, groups, ?_, hparts⟩
    · simp
    · exact (hbegins.of_blanks_append hbefore).of_append_blanks hafter

/-- The text after the run is kept in the tag and nowhere else. -/
example : parse " V3.1.0-rc.2 " = .ok ⟨"V3.1.0-rc.2", [3, 1, 0]⟩ := by rfl

end Courier.Version
