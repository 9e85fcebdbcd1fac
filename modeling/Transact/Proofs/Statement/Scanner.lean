/-
# The scanner accepts its grammar

The scanner reports no error on a statement exactly when the statement splits into
pieces, and then it reports their placeholders in order. For each function that
passes over something there is one lemma, in both directions: what it leaves is
what stands behind a piece of its kind. The scanner never looks back, so these
lemmas add up along a statement.
-/

import Transact.Proofs.Statement.Grammar
import Transact.Statement.Scanner

namespace Transact.Scanner

open Grammar

/-! ## Closers -/

section Closers

variable {α : Type} {closer front : List α} {first : α}

/-- Nothing stands before a closer that comes at once. -/
theorem ends_nil (hcloser : closer ≠ []) : Ends closer [] := by
  intro hinfix
  have hlength := hinfix.length_le
  rw [List.nil_append, List.length_dropLast] at hlength
  have hpos := List.length_pos_iff.mpr hcloser
  omega

/-- A closer ends a row if it does not stand at its beginning and ends what comes after. -/
theorem ends_cons_iff (behind : List α) :
    Ends closer (first :: front) ↔
      ¬ closer <+: first :: (front ++ (closer ++ behind)) ∧ Ends closer front := by
  have hfront : closer <+: first :: (front ++ (closer ++ behind)) ↔
      closer <+: first :: (front ++ closer.dropLast) := by
    have hshort :
        first :: (front ++ closer.dropLast) <+: first :: (front ++ (closer ++ behind)) := by
      rw [List.cons_prefix_cons, List.prefix_append_right_inj]
      exact ⟨rfl, (List.dropLast_prefix closer).trans (List.prefix_append closer behind)⟩
    refine ⟨fun hlong => List.prefix_of_prefix_length_le hlong hshort ?_, fun h => h.trans hshort⟩
    simp only [List.length_cons, List.length_append, List.length_dropLast]
    omega
  rw [Ends, List.cons_append, List.infix_cons_iff, not_or, hfront]
  rfl

end Closers

/-! ## Quotes -/

/-- A row of quotes begins a text where bare quotes begin its marks. -/
theorem replicate_prefix_iff {quote : Char} (hquote : quote ≠ '\\') {count total : Nat}
    (hcount : count ≤ total) (marks : List Mark) (behind : List Char) :
    List.replicate count quote <+:
        Mark.textOf marks ++ (List.replicate total quote ++ behind) ↔
      List.replicate count (some quote) <+:
        marks.map Mark.bare? ++ List.replicate total (some quote) := by
  induction marks generalizing count with
  | nil =>
      obtain ⟨more, rfl⟩ := Nat.exists_eq_add_of_le hcount
      simp [Mark.textOf, ← List.replicate_append_replicate, List.append_assoc]
  | cons mark marks ih =>
      cases count with
      | zero => simp
      | succ count =>
          have hrest := ih (Nat.le_of_succ_le hcount)
          cases mark with
          | plain c hplain =>
              simpa [Mark.textOf, Mark.text, Mark.bare?, List.replicate_succ] using fun _ => hrest
          | escaped c => simp [Mark.textOf, Mark.text, Mark.bare?, List.replicate_succ, hquote]

/-- Quotes end a row of marks if its text does not begin with them, and they end its tail. -/
theorem ends_marks_cons_iff {quote : Char} (hquote : quote ≠ '\\') (count : Nat) (mark : Mark)
    (marks : List Mark) (behind : List Char) :
    Ends (List.replicate count (some quote)) ((mark :: marks).map Mark.bare?) ↔
      ¬ List.replicate count quote <+:
          mark.text ++ (Mark.textOf marks ++ (List.replicate count quote ++ behind)) ∧
        Ends (List.replicate count (some quote)) (marks.map Mark.bare?) := by
  have hbare := replicate_prefix_iff hquote (Nat.le_refl count) (mark :: marks) behind
  rw [Mark.textOf, List.flatMap_cons, ← Mark.textOf, List.append_assoc] at hbare
  rw [hbare, List.map_cons, ends_cons_iff [], List.append_nil, List.cons_append]

/-- A function passes over marks up to the first row of bare quotes. -/
structure Closes (close : List Char → Option (List Char)) (quote : Char) (count : Nat) : Prop where
  nil : close [] = none
  lone : close ['\\'] = none
  escaped : ∀ c rest, close ('\\' :: c :: rest) = close rest
  plain : ∀ c rest, c ≠ '\\' → close (c :: rest) =
    if List.replicate count quote <+: c :: rest then some ((c :: rest).drop count) else close rest

theorem closes_closeQuote {quote : Char} (hquote : quote ≠ '\\') :
    Closes (closeQuote quote) quote 1 where
  nil := rfl
  lone := by simp [closeQuote, hquote.symm]
  escaped _ _ := by rw [closeQuote]
  plain c rest hc := by
    have hfront : List.replicate 1 quote <+: c :: rest ↔ c = quote := by
      simp [List.replicate_succ, eq_comm]
    rw [closeQuote]
    · simp only [hfront, List.drop_one, List.tail_cons]
    · exact fun _ _ h => absurd h hc

theorem closes_closeTripleQuote (quote : Char) :
    Closes (closeTripleQuote quote) quote 3 where
  nil := rfl
  lone := by simp [closeTripleQuote]
  escaped _ _ := by rw [closeTripleQuote]
  plain c rest hc := by
    rcases rest with _ | ⟨second, _ | ⟨third, after⟩⟩
    case nil => simp [closeTripleQuote, List.replicate_succ]
    case cons.nil =>
        rw [closeTripleQuote]
        · simp [closeTripleQuote, List.replicate_succ]
        · exact fun _ _ h => absurd h hc
        · intro _ _ _ h
          cases h
    case cons.cons =>
        have hfront : List.replicate 3 quote <+: c :: second :: third :: after ↔
            c = quote ∧ second = quote ∧ third = quote := by
          simp [List.replicate_succ, List.cons_prefix_cons, eq_comm]
        rw [closeTripleQuote]
        · simp only [hfront, List.drop_succ_cons, List.drop_zero]
        · exact fun _ _ h => absurd h hc

namespace Closes

variable {close : List Char → Option (List Char)} {quote : Char} {count : Nat}
  {chars rest : List Char}

/-- What is left stands behind the first row of bare quotes. -/
theorem sound (h : Closes close quote (count + 1)) (hquote : quote ≠ '\\')
    (hclose : close chars = some rest) :
    ∃ marks : List Mark,
      Ends (List.replicate (count + 1) (some quote)) (marks.map Mark.bare?) ∧
        chars = Mark.textOf marks ++ (List.replicate (count + 1) quote ++ rest) := by
  -- A backslash takes the next character with it, so the induction is on the length.
  induction hlength : chars.length using Nat.strongRecOn generalizing chars with
  | ind length ih =>
      cases chars with
      | nil =>
          rw [h.nil] at hclose
          cases hclose
      | cons c more =>
          subst hlength
          by_cases hc : c = '\\'
          · subst hc
            cases more with
            | nil =>
                rw [h.lone] at hclose
                cases hclose
            | cons c more =>
                rw [h.escaped] at hclose
                have hlt : more.length < ('\\' :: c :: more).length := by
                  simp only [List.length_cons]
                  omega
                obtain ⟨marks, hends, rfl⟩ := ih more.length hlt hclose rfl
                refine ⟨.escaped c :: marks, ?_, rfl⟩
                rw [ends_marks_cons_iff hquote _ _ _ rest]
                exact ⟨by simp [Mark.text, List.replicate_succ, hquote], hends⟩
          · rw [h.plain c more hc] at hclose
            split at hclose
            case isTrue hfront =>
              obtain ⟨behind, hbehind⟩ := hfront
              obtain rfl := Option.some.inj hclose
              refine ⟨[], ends_nil (by simp), ?_⟩
              rw [← hbehind]
              simp [Mark.textOf]
            case isFalse hfront =>
              obtain ⟨marks, hends, rfl⟩ := ih more.length (by simp) hclose rfl
              refine ⟨.plain c hc :: marks, ?_, rfl⟩
              rw [ends_marks_cons_iff hquote _ _ _ rest]
              exact ⟨hfront, hends⟩

/-- What stands behind the first row of bare quotes is left. -/
theorem complete (h : Closes close quote (count + 1)) (hquote : quote ≠ '\\') {marks : List Mark}
    (hends : Ends (List.replicate (count + 1) (some quote)) (marks.map Mark.bare?)) :
    close (Mark.textOf marks ++ (List.replicate (count + 1) quote ++ rest)) = some rest := by
  induction marks with
  | nil =>
      have hplain := h.plain quote (List.replicate count quote ++ rest) hquote
      rw [← List.cons_append, ← List.replicate_succ, if_pos (List.prefix_append _ _)] at hplain
      rw [Mark.textOf, List.flatMap_nil, List.nil_append, hplain]
      simp
  | cons mark marks ih =>
      obtain ⟨hfront, htail⟩ := (ends_marks_cons_iff hquote _ _ _ rest).mp hends
      cases mark with
      | escaped c => exact (h.escaped c _).trans (ih htail)
      | plain c hc => exact ((h.plain c _ hc).trans (if_neg hfront)).trans (ih htail)

end Closes

theorem isQuote_iff {c : Char} : isQuote c = true ↔ c ∈ ['\'', '"', '`'] := by
  simp [isQuote, or_assoc]

/-- Single and double quotes are the ones that have an empty literal. -/
theorem mem_doubled_iff {c : Char} :
    c ∈ ['\'', '"'] ↔ isQuote c = true ∧ c ≠ '`' := by
  rw [isQuote_iff]
  simp only [List.mem_cons, List.not_mem_nil, or_false]
  constructor
  · rintro (rfl | rfl) <;> decide
  · rintro ⟨rfl | rfl | rfl, hne⟩
    · exact .inl rfl
    · exact .inr rfl
    · exact absurd rfl hne

theorem ne_backslash_of_isQuote {c : Char} (hquote : isQuote c = true) : c ≠ '\\' := by
  rintro rfl
  cases hquote

theorem singleton_prefix_iff {α : Type} {value : α} {row : List α} :
    [value] <+: row ↔ row.head? = some value := by
  cases row <;> simp [List.cons_prefix_cons, eq_comm]

/-- A quoted piece is passed over to what stands behind it. -/
theorem skipQuoted_complete {literal rest : List Char} (h : Quoted rest literal) :
    ∃ quote body, isQuote quote = true ∧ literal = quote :: body ∧
      skipQuoted quote (body ++ rest) = .ok rest := by
  cases h with
  | @literal quote marks hquote hform hends =>
      have hplain := ne_backslash_of_isQuote (isQuote_iff.mpr hquote)
      have hopen : ¬ (quote ≠ '`' ∧
          (Mark.textOf marks ++ ([quote] ++ rest)).head? = some quote) := by
        rintro ⟨hne, hhead⟩
        obtain rfl | hmarks := hform
        · exact hne rfl
        · obtain ⟨mark, marks, rfl⟩ := List.exists_cons_of_ne_nil hmarks
          apply ((ends_marks_cons_iff hplain 1 mark marks rest).mp hends).1
          rw [← List.append_assoc]
          exact singleton_prefix_iff.mpr hhead
      have hclose : closeQuote quote (Mark.textOf marks ++ ([quote] ++ rest)) = some rest :=
        (closes_closeQuote hplain).complete hplain hends
      refine ⟨quote, _, isQuote_iff.mpr hquote, rfl, ?_⟩
      rw [List.append_assoc, skipQuoted, if_neg hopen, hclose]
      rfl
  | @empty quote hquote hbehind =>
      obtain ⟨hmember, hne⟩ := mem_doubled_iff.mp hquote
      refine ⟨quote, [quote], hmember, rfl, ?_⟩
      rw [skipQuoted, if_pos ⟨hne, rfl⟩]
      exact if_neg hbehind
  | @triple quote marks hquote hends =>
      obtain ⟨hmember, hne⟩ := mem_doubled_iff.mp hquote
      have hclose : closeTripleQuote quote
          (Mark.textOf marks ++ ([quote, quote, quote] ++ rest)) = some rest :=
        (closes_closeTripleQuote quote).complete (ne_backslash_of_isQuote hmember) hends
      refine ⟨quote, quote :: quote :: (Mark.textOf marks ++ [quote, quote, quote]), hmember, rfl,
        ?_⟩
      rw [skipQuoted, if_pos ⟨hne, rfl⟩]
      simp only [List.cons_append, List.append_assoc, List.tail_cons, List.head?_cons, if_true]
      simp only [List.cons_append] at hclose
      rw [hclose]
      rfl

/-- What is left behind a quoted piece stands behind it. -/
theorem skipQuoted_sound {quote : Char} {chars rest : List Char} (hquote : isQuote quote = true)
    (h : skipQuoted quote chars = .ok rest) :
    ∃ body, chars = body ++ rest ∧ Quoted rest (quote :: body) := by
  have hplain := ne_backslash_of_isQuote hquote
  rw [skipQuoted] at h
  split at h
  case isTrue hopen =>
    obtain ⟨hne, hhead⟩ := hopen
    obtain ⟨more, rfl⟩ : ∃ more, chars = quote :: more := by
      cases chars with
      | nil => cases hhead
      | cons c more => exact ⟨more, by rw [Option.some.inj hhead]⟩
    have hmember : quote ∈ ['\'', '"'] := mem_doubled_iff.mpr ⟨hquote, hne⟩
    split at h
    case isTrue htriple =>
      obtain ⟨more, rfl⟩ : ∃ after, more = quote :: after := by
        cases more with
        | nil => cases htriple
        | cons c more => exact ⟨more, by rw [Option.some.inj htriple]⟩
      obtain ⟨marks, hends, rfl⟩ :=
        (closes_closeTripleQuote quote).sound hplain (eq_some_of_closed h)
      refine ⟨quote :: quote :: (Mark.textOf marks ++ [quote, quote, quote]), ?_,
        .triple marks hmember hends⟩
      simp [List.replicate_succ]
    case isFalse hempty =>
      cases h
      exact ⟨[quote], rfl, .empty hmember hempty⟩
  case isFalse hopen =>
    obtain ⟨marks, hends, rfl⟩ := (closes_closeQuote hplain).sound hplain (eq_some_of_closed h)
    refine ⟨Mark.textOf marks ++ [quote], by simp [List.replicate_succ],
      .literal marks (isQuote_iff.mp hquote) ?_ hends⟩
    by_cases hne : quote = '`'
    · exact .inl hne
    · right
      rintro rfl
      exact hopen ⟨hne, rfl⟩

/-! ## Comments -/

theorem closeComment_cons (c : Char) (chars : List Char) :
    closeComment (c :: chars) =
      if ['*', '/'] <+: c :: chars then some chars.tail else closeComment chars := by
  cases chars with
  | nil => simp [closeComment]
  | cons second after =>
      have hfront : ['*', '/'] <+: c :: second :: after ↔ c = '*' ∧ second = '/' := by
        simp [List.cons_prefix_cons, eq_comm]
      rw [closeComment]
      simp only [hfront, List.tail_cons]

/-- A comment goes up to the first `*/`. -/
theorem closeComment_eq_some_iff {chars rest : List Char} :
    closeComment chars = some rest ↔
      ∃ text, Ends ['*', '/'] text ∧ chars = text ++ (['*', '/'] ++ rest) := by
  constructor
  · intro hclose
    induction chars with
    | nil => cases hclose
    | cons c chars ih =>
        rw [closeComment_cons] at hclose
        split at hclose
        case isTrue hfront =>
          obtain ⟨behind, hbehind⟩ := hfront
          rw [← hbehind]
          obtain ⟨-, rfl⟩ := List.cons.inj hbehind
          exact ⟨[], ends_nil (by simp), by rw [← Option.some.inj hclose]; rfl⟩
        case isFalse hfront =>
          obtain ⟨text, hends, rfl⟩ := ih hclose
          exact ⟨c :: text, (ends_cons_iff rest).mpr ⟨hfront, hends⟩, rfl⟩
  · rintro ⟨text, hends, rfl⟩
    induction text with
    | nil => rfl
    | cons c text ih =>
        obtain ⟨hfront, htail⟩ := (ends_cons_iff rest).mp hends
        rw [List.cons_append, closeComment_cons, if_neg hfront, ih htail]

/-- Characters of a kind up to the first that is of another one. -/
theorem dropWhile_eq {kind : Char → Bool} {text rest : List Char}
    (htext : ∀ c ∈ text, kind c = true) (hrest : ∀ c ∈ rest.head?, kind c = false) :
    (text ++ rest).takeWhile kind = text ∧ (text ++ rest).dropWhile kind = rest := by
  rw [List.takeWhile_append_of_pos htext, List.dropWhile_append_of_pos htext]
  cases rest with
  | nil => simp
  | cons c rest => simp [hrest c rfl]

theorem head?_dropWhile {kind : Char → Bool} {chars : List Char} :
    ∀ c ∈ (chars.dropWhile kind).head?, kind c = false := by
  intro c hc
  have hnot := List.head?_dropWhile_not kind chars
  rw [Option.mem_def] at hc
  rw [hc] at hnot
  simpa using hnot

/-! ## Hints -/

section Hints

variable {depth : Nat} {c : Char} {chars behind text rest : List Char}

theorem closeHint_quote (hquote : isQuote c = true) :
    closeHint depth (c :: chars) =
      match skipQuoted c chars with
      | .ok after => closeHint depth after
      | .error fault => .error fault := by
  rw [closeHint, if_pos hquote]
  split <;> simp_all

theorem closeHint_open : closeHint depth ('\x7b' :: chars) = closeHint (depth + 1) chars := by
  rw [closeHint]
  rfl

theorem closeHint_close :
    closeHint depth ('\x7d' :: chars) =
      if depth ≤ 1 then .ok chars else closeHint (depth - 1) chars := by
  rw [closeHint]
  rfl

theorem closeHint_other (hc : c ∉ ['\'', '"', '`', '\x7b', '\x7d']) :
    closeHint depth (c :: chars) = closeHint depth chars := by
  simp only [List.mem_cons, List.not_mem_nil, not_or, or_false] at hc
  rw [closeHint]
  simp [isQuote, hc]

/-- Text in which every brace has its partner leaves as many braces open as before. -/
theorem closeHint_balanced (h : Balanced behind text) (hdepth : 0 < depth) :
    closeHint depth (text ++ behind) = closeHint depth behind := by
  induction h generalizing depth with
  | nil => rfl
  | char hc _ ih => rw [List.cons_append, closeHint_other hc, ih hdepth]
  | quoted hliteral _ ih =>
      obtain ⟨quote, body, hquote, rfl, hskip⟩ := skipQuoted_complete hliteral
      rw [List.append_assoc, List.cons_append, closeHint_quote hquote, hskip]
      exact ih hdepth
  | @braces behind inner text _ _ ihinner ihtext =>
      have hinner := ihinner (Nat.succ_pos depth)
      rw [List.cons_append, List.append_assoc, List.cons_append, closeHint_open, hinner,
        closeHint_close, if_neg (by omega)]
      exact ihtext hdepth

/-- A hint that is closed consists of text in which every brace has its partner, the brace that
closes the last one open before, and what closes the others. -/
theorem closeHint_sound (hdepth : 0 < depth) (hclose : closeHint depth chars = .ok rest) :
    ∃ text after, chars = text ++ '\x7d' :: after ∧ Balanced ('\x7d' :: after) text ∧
      closeHint depth ('\x7d' :: after) = .ok rest := by
  induction hlength : chars.length using Nat.strongRecOn generalizing depth chars with
  | ind length ih =>
      subst hlength
      cases chars with
      | nil => simp [closeHint] at hclose
      | cons c chars =>
          by_cases hquote : isQuote c = true
          case pos =>
            rw [closeHint_quote hquote] at hclose
            cases hskip : skipQuoted c chars with
            | error fault =>
                rw [hskip] at hclose
                cases hclose
            | ok more =>
                rw [hskip] at hclose
                have hlt := length_skipQuoted hskip
                obtain ⟨literal, rfl, hliteral⟩ := skipQuoted_sound hquote hskip
                obtain ⟨text, after, rfl, htext, hafter⟩ :=
                  ih more.length (by simp only [List.length_cons]; omega) hdepth hclose rfl
                exact ⟨c :: literal ++ text, after, by simp, .quoted hliteral htext, hafter⟩
          case neg =>
            by_cases hopen : c = '\x7b'
            · subst hopen
              rw [closeHint_open] at hclose
              obtain ⟨inner, more, rfl, hinner, hmore⟩ :=
                ih chars.length (by simp) (Nat.succ_pos depth) hclose rfl
              rw [closeHint_close, if_neg (by omega)] at hmore
              obtain ⟨text, after, rfl, htext, hafter⟩ :=
                ih more.length (by simp only [List.length_cons, List.length_append]; omega) hdepth
                  hmore rfl
              exact ⟨'\x7b' :: (inner ++ '\x7d' :: text), after, by simp, .braces hinner htext,
                hafter⟩
            · by_cases hclosing : c = '\x7d'
              · subst hclosing
                exact ⟨[], chars, rfl, .nil, hclose⟩
              · have hc : c ∉ ['\'', '"', '`', '\x7b', '\x7d'] := by
                  simp [isQuote] at hquote
                  simp [hquote, hopen, hclosing]
                rw [closeHint_other hc] at hclose
                obtain ⟨text, after, rfl, htext, hafter⟩ :=
                  ih chars.length (by simp) hdepth hclose rfl
                exact ⟨c :: text, after, rfl, .char hc htext, hafter⟩

/-- A hint goes up to the brace that closes the first one. -/
theorem closeHint_eq_ok_iff :
    closeHint 1 chars = .ok rest ↔
      ∃ text, Balanced ('\x7d' :: rest) text ∧ chars = text ++ '\x7d' :: rest := by
  constructor
  · intro hclose
    obtain ⟨text, after, rfl, htext, hafter⟩ := closeHint_sound Nat.one_pos hclose
    rw [closeHint_close, if_pos (Nat.le_refl 1)] at hafter
    cases hafter
    exact ⟨text, htext, rfl⟩
  · rintro ⟨text, htext, rfl⟩
    rw [closeHint_balanced htext Nat.one_pos, closeHint_close, if_pos (Nat.le_refl 1)]

end Hints

/-! ## Pieces -/

/-- How the scanner reports a piece. -/
def report : Found → Piece
  | .nothing => .skipped
  | .positional => .positional
  | .named name => .named name

section Pieces

variable {c : Char} {chars text rest : List Char} {found : Found}

theorem piece_quoted (hquote : isQuote c = true) :
    piece c chars = Piece.ofSkip (skipQuoted c chars) := by
  rw [piece.eq_def, if_pos hquote]

theorem piece_hash : piece '#' chars = (.skipped, skipLine chars) := rfl

theorem piece_dashes : piece '-' ('-' :: chars) = (.skipped, skipLine chars) := rfl

theorem piece_block : piece '/' ('*' :: chars) =
    match closeComment chars with
    | some rest => (.skipped, rest)
    | none => (.fault .unterminatedComment, []) := rfl

theorem piece_hint : piece '@' ('\x7b' :: chars) = Piece.ofSkip (closeHint 1 chars) := rfl

theorem piece_name (hhint : chars.head? ≠ some '\x7b') : piece '@' chars = name chars := by
  cases chars with
  | nil => rfl
  | cons next chars =>
      have hne : next ≠ '\x7b' := fun h => hhint (by rw [h]; rfl)
      simp [piece, isQuote, hne]

theorem piece_other (hc : c ∉ ['\'', '"', '`', '#', '?', '@'])
    (hdash : c = '-' → chars.head? ≠ some '-') (hslash : c = '/' → chars.head? ≠ some '*') :
    piece c chars = (.skipped, chars) := by
  simp only [List.mem_cons, List.not_mem_nil, not_or, or_false] at hc
  cases chars with
  | nil => simp [piece, isQuote, hc]
  | cons next chars =>
      have hdashes : ¬ (c = '-' ∧ next = '-') := fun h => hdash h.1 (by rw [h.2]; rfl)
      have hblock : ¬ (c = '/' ∧ next = '*') := fun h => hslash h.1 (by rw [h.2]; rfl)
      simp [piece, isQuote, hc, hdashes, hblock]

/-- A line goes up to its end. -/
theorem skipLine_eq (htext : '\n' ∉ text) (hrest : ∀ c ∈ rest.head?, c = '\n') :
    skipLine (text ++ rest) = rest := by
  apply (dropWhile_eq _ _).2
  · intro c hc
    have hne : c ≠ '\n' := fun h => htext (h ▸ hc)
    simpa using hne
  · intro c hc
    simp [hrest c hc]

theorem exists_skipLine (chars : List Char) :
    ∃ text, chars = text ++ skipLine chars ∧ '\n' ∉ text ∧
      ∀ c ∈ (skipLine chars).head?, c = '\n' := by
  refine ⟨chars.takeWhile (· ≠ '\n'), List.takeWhile_append_dropWhile.symm, ?_, ?_⟩
  · intro hmem
    simpa using List.all_eq_true.mp List.all_takeWhile _ hmem
  · intro c hc
    simpa using head?_dropWhile c hc

/-- The scanner takes every piece of a statement for what it is. -/
theorem piece_complete (h : Lexeme rest text found) :
    ∃ c body, text = c :: body ∧ piece c (body ++ rest) = (report found, rest) := by
  cases h with
  | quoted htext =>
      obtain ⟨quote, body, hquote, rfl, hskip⟩ := skipQuoted_complete htext
      exact ⟨quote, body, rfl, by rw [piece_quoted hquote, hskip]; rfl⟩
  | @line opening text hopening htext hbehind =>
      have hline := skipLine_eq htext hbehind
      rcases hopening with rfl | rfl
      · exact ⟨'-', '-' :: text, rfl, by rw [List.cons_append, piece_dashes, hline]; rfl⟩
      · exact ⟨'#', text, rfl, by rw [piece_hash, hline]; rfl⟩
  | @block text hends =>
      have hclose : closeComment (text ++ (['*', '/'] ++ rest)) = some rest :=
        closeComment_eq_some_iff.mpr ⟨text, hends, rfl⟩
      refine ⟨'/', '*' :: (text ++ ['*', '/']), rfl, ?_⟩
      rw [List.cons_append, List.append_assoc, piece_block, hclose]
      rfl
  | @hint text htext =>
      have hclose : closeHint 1 (text ++ '\x7d' :: rest) = .ok rest :=
        closeHint_eq_ok_iff.mpr ⟨text, htext, rfl⟩
      refine ⟨'@', '\x7b' :: (text ++ ['\x7d']), rfl, ?_⟩
      rw [List.cons_append, List.append_assoc, piece_hint, List.singleton_append, hclose]
      rfl
  | positional => exact ⟨'?', [], rfl, rfl⟩
  | @named first name hname hfirst hbehind =>
      refine ⟨'@', first :: name, rfl, ?_⟩
      obtain ⟨htake, hdrop⟩ := dropWhile_eq hname hbehind
      rw [piece_name, Scanner.name, htake, hdrop, nameOf, hfirst]
      · rfl
      · intro hhint
        have hbrace := hname _ List.mem_cons_self
        rw [Option.some.inj hhint] at hbrace
        revert hbrace
        decide
  | other hc hdash hslash => exact ⟨_, [], rfl, piece_other hc hdash hslash⟩

/-- What the scanner passes over is no placeholder. -/
theorem report_skipped {more : List Char} (h : (Piece.skipped, more) = (report found, rest)) :
    found = .nothing ∧ more = rest := by
  cases found <;> cases h
  exact ⟨rfl, rfl⟩

theorem report_ofSkip {outcome : Except ConstructionFault (List Char)}
    (h : Piece.ofSkip outcome = (report found, rest)) : found = .nothing ∧ outcome = .ok rest := by
  cases outcome with
  | ok more =>
      obtain ⟨hfound, rfl⟩ := report_skipped h
      exact ⟨hfound, rfl⟩
  | error fault => cases found <;> cases h

/-- A name that the scanner reports is one, and goes as far as it can. -/
theorem name_sound (h : name chars = (report found, rest)) :
    ∃ body, chars = body ++ rest ∧ Lexeme rest ('@' :: body) found := by
  obtain ⟨hname, rfl⟩ := Prod.mk.inj h
  have hsplit : chars = chars.takeWhile Word.isNameChar ++ chars.dropWhile Word.isNameChar :=
    List.takeWhile_append_dropWhile.symm
  refine ⟨_, hsplit, ?_⟩
  cases htake : chars.takeWhile Word.isNameChar with
  | nil =>
      rw [htake] at hname
      cases found <;> cases hname
  | cons first more =>
      rw [htake, nameOf] at hname
      split at hname
      · cases found <;> cases hname
      case isFalse hfirst =>
        obtain rfl : found = .named (String.ofList (first :: more)) := by
          cases found <;> cases hname
          rfl
        refine .named ?_ (Bool.not_eq_true _ ▸ hfirst) head?_dropWhile
        rw [← htake]
        exact List.all_eq_true.mp List.all_takeWhile

/-- What the scanner takes for a piece of a statement is one. -/
theorem piece_sound (h : piece c chars = (report found, rest)) :
    ∃ body, chars = body ++ rest ∧ Lexeme rest (c :: body) found := by
  by_cases hquote : isQuote c = true
  · rw [piece_quoted hquote] at h
    obtain ⟨rfl, hskip⟩ := report_ofSkip h
    obtain ⟨body, hchars, hquoted⟩ := skipQuoted_sound hquote hskip
    exact ⟨body, hchars, .quoted hquoted⟩
  by_cases hhash : c = '#'
  · subst hhash
    obtain ⟨rfl, rfl⟩ := report_skipped (piece_hash ▸ h)
    obtain ⟨text, hchars, htext, hbehind⟩ := exists_skipLine chars
    exact ⟨text, hchars, .line (.inr rfl) htext hbehind⟩
  by_cases hmark : c = '?'
  · subst hmark
    have hpiece : piece '?' chars = (.positional, chars) := rfl
    rw [hpiece] at h
    cases found <;> cases h
    exact ⟨[], rfl, .positional⟩
  by_cases hat : c = '@'
  · subst hat
    by_cases hhint : chars.head? = some '\x7b'
    · obtain ⟨more, rfl⟩ := List.head?_eq_some_iff.mp hhint
      obtain ⟨rfl, hclose⟩ := report_ofSkip (piece_hint ▸ h)
      obtain ⟨text, htext, rfl⟩ := closeHint_eq_ok_iff.mp hclose
      exact ⟨'\x7b' :: (text ++ ['\x7d']), by simp, .hint htext⟩
    · exact name_sound (piece_name hhint ▸ h)
  by_cases hdash : c = '-' ∧ chars.head? = some '-'
  · obtain ⟨rfl, hhead⟩ := hdash
    obtain ⟨more, rfl⟩ := List.head?_eq_some_iff.mp hhead
    obtain ⟨rfl, rfl⟩ := report_skipped (piece_dashes ▸ h)
    obtain ⟨text, hchars, htext, hbehind⟩ := exists_skipLine more
    exact ⟨'-' :: text, congrArg (List.cons '-') hchars, .line (.inl rfl) htext hbehind⟩
  by_cases hslash : c = '/' ∧ chars.head? = some '*'
  · obtain ⟨rfl, hhead⟩ := hslash
    obtain ⟨more, rfl⟩ := List.head?_eq_some_iff.mp hhead
    rw [piece_block] at h
    cases hclose : closeComment more with
    | none =>
        rw [hclose] at h
        cases found <;> cases h
    | some after =>
        rw [hclose] at h
        obtain ⟨rfl, rfl⟩ := report_skipped h
        obtain ⟨text, hends, rfl⟩ := closeComment_eq_some_iff.mp hclose
        exact ⟨'*' :: (text ++ ['*', '/']), by simp, .block hends⟩
  have hc : c ∉ ['\'', '"', '`', '#', '?', '@'] := by
    simp [isQuote] at hquote
    simp [hquote, hhash, hmark, hat]
  have hdash' (h : c = '-') : chars.head? ≠ some '-' := fun hhead => hdash ⟨h, hhead⟩
  have hslash' (h : c = '/') : chars.head? ≠ some '*' := fun hhead => hslash ⟨h, hhead⟩
  obtain ⟨rfl, rfl⟩ := report_skipped (piece_other hc hdash' hslash' ▸ h)
  exact ⟨[], rfl, .other hc hdash' hslash'⟩

end Pieces

/-! ## Statements -/

theorem scanFrom_cons {count : Nat} {c : Char} {chars rest : List Char} {found : Found}
    (h : piece c chars = (report found, rest)) :
    scanFrom count (c :: chars) =
      match found with
      | .nothing => scanFrom count rest
      | .positional => .ok (.positional (count + 1)) :: scanFrom (count + 1) rest
      | .named name => .ok (.named name) :: scanFrom count rest := by
  rw [scanFrom]
  cases found <;> simp only [h, report]

/-- The placeholders of the pieces of a text are what the scanner reports. -/
theorem scanFrom_of_splits {chars : List Char} {pieces : List Found} (h : Splits chars pieces)
    (count : Nat) : scanFrom count chars = (keysFrom count pieces).map .ok := by
  induction h generalizing count with
  | nil => rw [scanFrom]; rfl
  | @cons text behind found rest hpiece _ ih =>
      obtain ⟨c, body, rfl, hfound⟩ := piece_complete hpiece
      rw [List.cons_append, scanFrom_cons hfound]
      cases found <;> simp only [ih, keysFrom, List.map_cons]

/-- Where the scanner reports no error, what it takes first is a piece. -/
theorem exists_report {count : Nat} {c : Char} {chars : List Char}
    (h : ∀ item ∈ scanFrom count (c :: chars), ∃ key, item = .ok key) :
    ∃ found, piece c chars = (report found, (piece c chars).2) := by
  cases hpiece : (piece c chars).1 with
  | skipped => exact ⟨.nothing, Prod.ext hpiece rfl⟩
  | positional => exact ⟨.positional, Prod.ext hpiece rfl⟩
  | named name => exact ⟨.named name, Prod.ext hpiece rfl⟩
  | fault reason =>
      rw [scanFrom, hpiece] at h
      obtain ⟨key, hkey⟩ := h _ List.mem_cons_self
      cases hkey

/-- A text that the scanner reports no error on splits into pieces. -/
theorem exists_splits {chars : List Char} (count : Nat)
    (h : ∀ item ∈ scanFrom count chars, ∃ key, item = .ok key) : ∃ pieces, Splits chars pieces := by
  induction hlength : chars.length using Nat.strongRecOn generalizing count chars with
  | ind length ih =>
      subst hlength
      cases chars with
      | nil => exact ⟨[], .nil⟩
      | cons c chars =>
          obtain ⟨found, hpiece⟩ := exists_report h
          have hlt : (piece c chars).2.length < (c :: chars).length :=
            Nat.lt_succ_of_le (length_piece c chars)
          have hrest :
              ∃ count, ∀ item ∈ scanFrom count (piece c chars).2, ∃ key, item = .ok key := by
            rw [scanFrom_cons hpiece] at h
            cases found with
            | nothing => exact ⟨count, h⟩
            | positional => exact ⟨count + 1, (List.forall_mem_cons.mp h).2⟩
            | named name => exact ⟨count, (List.forall_mem_cons.mp h).2⟩
          obtain ⟨later, hlater⟩ := hrest
          obtain ⟨pieces, hpieces⟩ := ih _ hlt later hlater rfl
          obtain ⟨body, hbody, hlexeme⟩ := piece_sound hpiece
          refine ⟨found :: pieces, ?_⟩
          rw [hbody, ← List.cons_append]
          exact .cons hlexeme hpieces

/-- The scanner reports no error exactly on the texts that split into pieces, and then it reports
the placeholders of the pieces in order, the question marks counted from 1. -/
theorem scan_accepts_grammar (sql : String) :
    ((∀ item ∈ scan sql, ∃ key, item = .ok key) ↔ ∃ pieces, Splits sql.toList pieces) ∧
      ∀ pieces, Splits sql.toList pieces → scan sql = (keysFrom 0 pieces).map .ok := by
  refine ⟨⟨exists_splits 0, ?_⟩, fun pieces h => scanFrom_of_splits h 0⟩
  rintro ⟨pieces, h⟩ item hitem
  rw [scan, scanFrom_of_splits h] at hitem
  obtain ⟨key, -, rfl⟩ := List.mem_map.mp hitem
  exact ⟨key, rfl⟩

/-- A question mark in a literal is none of the placeholders. -/
theorem scan_accepts_grammar_literal :
    scan "'?' ?@x" = [.ok (.positional 1), .ok (.named "x")] := by
  have hends : Ends [some '\''] ([Mark.plain '?' (by decide)].map Mark.bare?) := by
    unfold Ends
    decide
  have hliteral : Lexeme [' ', '?', '@', 'x'] ['\'', '?', '\''] .nothing :=
    .quoted (.literal [.plain '?' (by decide)] (by decide) (.inr (by simp)) hends)
  have hblank : Lexeme ['?', '@', 'x'] [' '] .nothing :=
    .other (by decide) (by decide) (by decide)
  have hmark : Lexeme ['@', 'x'] ['?'] .positional := .positional
  have hchar : ∀ c ∈ ['x'], Word.isNameChar c = true := by
    intro c hc
    rw [List.mem_singleton.mp hc]
    decide
  have hname : Lexeme [] ['@', 'x'] (.named "x") := .named hchar (by decide) (by simp)
  have hsplits : Splits "'?' ?@x".toList [.nothing, .nothing, .positional, .named "x"] :=
    .cons hliteral (.cons hblank (.cons hmark (.cons hname .nil)))
  exact (scan_accepts_grammar "'?' ?@x").2 _ hsplits

end Transact.Scanner
