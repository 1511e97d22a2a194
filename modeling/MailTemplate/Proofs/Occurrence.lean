/-
Module: MailTemplate.Proofs.Occurrence
Purpose: Where the hits of a scan stand, and when a tag that stands in a text is hit.
Main exports: Pattern.Cuts, Pattern.Overlap, Pattern.cuts_or_overlap, Pattern.mem_hitsAt_iff,
  Pattern.pairwise_hitsAt, Pattern.hits_eq_map_hitsAt, Pattern.Shallow,
  Pattern.Shallow.scan_of_cuts, Pattern.Separate, Pattern.Shallow.separate,
  Pattern.numbered, Pattern.Shallow.hits_lines
-/
import MailTemplate.Proofs.Lines
import MailTemplate.Proofs.Tag

/-!
A tag that stands in a text is hit by the scan unless an earlier hit reaches into it.  So two
patterns that read the same tags need not hit the same: it depends on what they read in front.

Most patterns are *shallow*: their tags are two braces around a body without closing braces, and
what is read depends on the body alone.  A scan for a shallow pattern can be cut wherever no hit
reaches across the cut, into lines in particular.  A shallow pattern in whose bodies none of its own
tags can begin is *separate*: each of its tags is hit, whatever precedes it.
-/

namespace MailTemplate

/-- A text is cut at the first stop character in one way. -/
theorem Text.append_stop_inj {stop : Char} {s t behind after : Text} (hs : stop ∉ s) (ht : stop ∉ t)
    (same : s ++ stop :: behind = t ++ stop :: after) : s = t ∧ behind = after := by
  have run {r : Text} (clear : stop ∉ r) (rest : Text) :
      takeRun (· != stop) (r ++ stop :: rest) = (r, stop :: rest) :=
    takeRun_eq (bne_of_not_mem clear) (by simp) rest
  have cut : (s, stop :: behind) = (t, stop :: after) := by rw [← run hs, same, run ht]
  obtain ⟨front, rest⟩ := Prod.mk.inj cut
  exact ⟨front, (List.cons.inj rest).2⟩

namespace Pattern

variable {α : Type}

/-! ### Places in a scan -/

/-- The scan of a text in two parts comes to a new token where the second part begins. -/
def Cuts (p : Pattern α) (u v : Text) : Prop :=
  ∃ first, p.scan (u ++ v) = first ++ p.scan v ∧ first.flatMap Token.raw = u

/-- A hit in a text of two parts that begins in the first and ends in the second. -/
structure Overlap (p : Pattern α) (u v : Text) where
  first : List (Token α)
  hit : Hit α
  inFirst : Text
  inSecond : Text
  after : Text
  scan : p.scan (u ++ v) = first ++ .hit hit :: p.scan after
  front : u = first.flatMap Token.raw ++ inFirst
  back : v = inSecond ++ after
  raw : hit.raw = inFirst ++ inSecond
  begins : inFirst ≠ []
  ends : inSecond ≠ []

/-- A cut stays one where a token is put in front that the scan finds. -/
theorem Cuts.cons {p : Pattern α} {token : Token α} {u v : Text} (cut : p.Cuts u v)
    (scan : p.scan (token.raw ++ (u ++ v)) = token :: p.scan (u ++ v)) :
    p.Cuts (token.raw ++ u) v := by
  obtain ⟨first, same, rfl⟩ := cut
  exact ⟨token :: first, by rw [List.append_assoc, scan, same]; rfl, List.flatMap_cons⟩

/-- An overlap with one more token in front. -/
def Overlap.cons {p : Pattern α} {token : Token α} {u v : Text} (o : p.Overlap u v)
    (scan : p.scan (token.raw ++ (u ++ v)) = token :: p.scan (u ++ v)) :
    p.Overlap (token.raw ++ u) v where
  first := token :: o.first
  hit := o.hit
  inFirst := o.inFirst
  inSecond := o.inSecond
  after := o.after
  scan := by rw [List.append_assoc, scan, o.scan]; rfl
  front := by rw [List.flatMap_cons, List.append_assoc, ← o.front]
  back := o.back
  raw := o.raw
  begins := o.begins
  ends := o.ends

/-- Wherever a text is cut, the scan begins a token there or a hit lies across the cut. -/
theorem cuts_or_overlap (p : Pattern α) (u v : Text) : p.Cuts u v ∨ Nonempty (p.Overlap u v) := by
  induction length : u.length using Nat.strongRecOn generalizing u with
  | ind n ih =>
      cases u with
      | nil => exact .inl ⟨[], rfl, rfl⟩
      | cons c u =>
          rw [List.length_cons] at length
          -- A token is taken off, so the induction is on the length and not on the characters.
          have step (token : Token α) {left : Text} (shorter : left.length < n)
              (scan : p.scan (token.raw ++ (left ++ v)) = token :: p.scan (left ++ v)) :
              p.Cuts (token.raw ++ left) v ∨ Nonempty (p.Overlap (token.raw ++ left) v) :=
            (ih left.length shorter left rfl).imp (·.cons scan) (·.map (·.cons scan))
          cases read : p.read (c :: (u ++ v)) with
          | none =>
              have scan : p.scan ((Token.plain c : Token α).raw ++ (u ++ v)) =
                  .plain c :: p.scan (u ++ v) := scan_of_not_read read
              exact step (.plain c) (by omega) scan
          | some found =>
              obtain ⟨hit, rest⟩ := found
              have scan := scan_of_read read
              have solid := List.length_pos_iff.2 (p.raw_ne_nil read)
              have whole : hit.raw ++ rest = c :: u ++ v := p.raw_append read
              rcases List.append_eq_append_iff.1 whole with ⟨left, same, rfl⟩ | ⟨back, raw, rfl⟩
              · have shorter := congrArg List.length same
                rw [List.length_append, List.length_cons] at shorter
                rw [← List.cons_append, ← whole] at scan
                rw [same]
                exact step (.hit hit) (by omega) scan
              · rw [← List.cons_append] at scan
                by_cases empty : back = []
                · subst empty
                  rw [List.append_nil] at raw
                  exact .inl ⟨[.hit hit], scan, by simp [Token.raw, raw]⟩
                · exact .inr ⟨⟨[], hit, c :: u, back, rest, scan, rfl, rfl, raw, by simp, empty⟩⟩

/-! ### The tokens of a scan -/

/-- A scan that begins with a plain character read nothing there. -/
theorem read_of_scan_plain {p : Pattern α} {t : Text} {c : Char} {tokens : List (Token α)}
    (scan : p.scan t = .plain c :: tokens) :
    ∃ rest, t = c :: rest ∧ p.read t = none ∧ p.scan rest = tokens := by
  cases t with
  | nil => simp [scan_nil] at scan
  | cons d t =>
      cases read : p.read (d :: t) with
      | none =>
          rw [scan_of_not_read read, List.cons.injEq, Token.plain.injEq] at scan
          exact ⟨t, by rw [scan.1], rfl, scan.2⟩
      | some found => simp [scan_of_read read] at scan

/-- A scan that begins with a hit read it there. -/
theorem read_of_scan_hit {p : Pattern α} {t : Text} {hit : Hit α} {tokens : List (Token α)}
    (scan : p.scan t = .hit hit :: tokens) :
    ∃ rest, p.read t = some (hit, rest) ∧ p.scan rest = tokens := by
  cases t with
  | nil => simp [scan_nil] at scan
  | cons d t =>
      cases read : p.read (d :: t) with
      | none => simp [scan_of_not_read read] at scan
      | some found =>
          rw [scan_of_read read, List.cons.injEq, Token.hit.injEq] at scan
          exact ⟨found.2, by rw [← scan.1], scan.2⟩

/-- Behind the tokens that make up its first part, a text is scanned by itself. -/
theorem scan_of_scan_append {p : Pattern α} {t : Text} {first last : List (Token α)}
    (scan : p.scan t = first ++ last) : p.scan (last.flatMap Token.raw) = last := by
  induction first generalizing t with
  | nil =>
      rw [List.nil_append] at scan
      rw [← scan, scan_flatMap_raw]
  | cons token first ih =>
      cases token with
      | plain c =>
          obtain ⟨rest, _, _, behind⟩ := read_of_scan_plain scan
          exact ih behind
      | hit hit =>
          obtain ⟨rest, _, behind⟩ := read_of_scan_hit scan
          exact ih behind

/-- The tokens on both sides of a place spell the text. -/
theorem eq_append_of_scan {p : Pattern α} {t : Text} {first last : List (Token α)}
    (scan : p.scan t = first ++ last) :
    t = first.flatMap Token.raw ++ last.flatMap Token.raw := by
  rw [← List.flatMap_append, ← scan, scan_flatMap_raw]

/-- Between any two tokens there is a cut. -/
theorem cuts_of_scan {p : Pattern α} {t : Text} {first last : List (Token α)}
    (scan : p.scan t = first ++ last) :
    p.Cuts (first.flatMap Token.raw) (last.flatMap Token.raw) := by
  refine ⟨first, ?_, rfl⟩
  rw [← eq_append_of_scan scan, scan_of_scan_append scan, scan]

/-- A hit was read where it stands. -/
theorem read_of_scan {p : Pattern α} {t : Text} {first last : List (Token α)} {hit : Hit α}
    (scan : p.scan t = first ++ .hit hit :: last) :
    p.read (hit.raw ++ last.flatMap Token.raw) = some (hit, last.flatMap Token.raw) := by
  obtain ⟨rest, read, behind⟩ := read_of_scan_hit (scan_of_scan_append scan)
  rw [← behind, scan_flatMap_raw, ← read]
  congr 1
  rw [← behind, List.flatMap_cons, scan_flatMap_raw]
  rfl

/-- A tag that stands at a cut is hit. -/
theorem Cuts.scan_of_read {p : Pattern α} {u v rest : Text} {hit : Hit α} (cut : p.Cuts u v)
    (read : p.read v = some (hit, rest)) :
    ∃ first, p.scan (u ++ v) = first ++ .hit hit :: p.scan rest ∧ first.flatMap Token.raw = u := by
  obtain ⟨first, scan, raw⟩ := cut
  exact ⟨first, by rw [scan, Pattern.scan_of_read read], raw⟩

/-- A tag that begins among the first tokens is one of them, or one of them reaches into it. -/
theorem exists_hit_of_read {p : Pattern α} {t a b rest : Text} {hit : Hit α}
    {first last : List (Token α)} (scan : p.scan t = first ++ last)
    (cut : first.flatMap Token.raw = a ++ b) (inside : b ≠ [])
    (read : p.read (b ++ last.flatMap Token.raw) = some (hit, rest)) :
    ∃ other x y behind, Token.hit other ∈ first ∧ other.raw = x ++ y ∧ y ≠ [] ∧
      b = y ++ behind := by
  induction first generalizing t a with
  | nil =>
      have empty : a ++ b = [] := cut.symm
      exact absurd (List.append_eq_nil_iff.1 empty).2 inside
  | cons token first ih =>
      -- If the tag begins behind this token, the same is asked of the others.
      have later {a : Text} (cut : first.flatMap Token.raw = a ++ b) :
          ∃ other x y behind, Token.hit other ∈ token :: first ∧ other.raw = x ++ y ∧ y ≠ [] ∧
            b = y ++ behind := by
        have behind : p.scan ((first ++ last).flatMap Token.raw) = first ++ last := by
          rw [← List.singleton_append, List.append_assoc] at scan
          exact scan_of_scan_append scan
        obtain ⟨other, x, y, rest, among, found⟩ := ih behind cut
        exact ⟨other, x, y, rest, List.mem_cons_of_mem _ among, found⟩
      rw [List.flatMap_cons] at cut
      cases a with
      | nil =>
          rw [List.nil_append] at cut
          have here := eq_append_of_scan scan
          rw [List.flatMap_cons, cut] at here
          rw [← here] at read
          rw [scan_of_read read] at scan
          obtain rfl := (List.cons.inj scan).1
          exact ⟨hit, [], hit.raw, _, List.mem_cons_self, rfl, p.raw_ne_nil read, cut.symm⟩
      | cons c a =>
          cases token with
          | plain d => exact later (List.cons.inj cut).2
          | hit h =>
              rcases List.append_eq_append_iff.1 cut with ⟨left, _, same⟩ | ⟨left, raw, rfl⟩
              · exact later same
              · by_cases empty : left = []
                · subst empty
                  exact later (a := []) rfl
                · exact ⟨h, _, left, _, List.mem_cons_self, raw, empty, rfl⟩

/-- At a cut, hits are found on both sides apart. -/
theorem Splits.hits_append {p : Pattern α} {first : Text} (splits : p.Splits first) (rest : Text) :
    p.hits (first ++ rest) = p.hits first ++ p.hits rest := by
  rw [hits, splits rest, List.filterMap_append, hits, hits]

/-- A hit is a token of the scan. -/
theorem mem_hits_iff {p : Pattern α} {t : Text} {hit : Hit α} :
    hit ∈ p.hits t ↔ ∃ first last, p.scan t = first ++ .hit hit :: last := by
  rw [hits, List.mem_filterMap]
  constructor
  · rintro ⟨token, inside, same⟩
    cases token with
    | plain c => exact absurd same (by simp)
    | hit other =>
        obtain rfl := Option.some.inj same
        exact List.append_of_mem inside
  · rintro ⟨first, last, scan⟩
    exact ⟨.hit hit, by simp [scan], rfl⟩

/-- A token is located behind the tokens in front of it. -/
theorem mem_locate_iff {column start : Nat} {tokens : List (Token α)} {token : Token α} :
    (column, token) ∈ locate start tokens ↔
      ∃ first last, tokens = first ++ token :: last ∧
        start + (first.flatMap Token.raw).length = column := by
  induction tokens generalizing start with
  | nil => simp [locate]
  | cons next tokens ih =>
      rw [locate, List.mem_cons, ih]
      constructor
      · rintro (same | ⟨first, last, rfl, rfl⟩)
        · obtain ⟨rfl, rfl⟩ := Prod.mk.inj same
          exact ⟨[], tokens, rfl, rfl⟩
        · exact ⟨next :: first, last, rfl, by simp [Nat.add_assoc]⟩
      · rintro ⟨first, last, same, rfl⟩
        cases first with
        | nil =>
            obtain ⟨rfl, rfl⟩ := List.cons.inj same
            exact .inl rfl
        | cons token first =>
            obtain ⟨rfl, rfl⟩ := List.cons.inj same
            exact .inr ⟨first, last, rfl, by simp [Nat.add_assoc]⟩

/-- What stands behind a token begins where that ends. -/
theorem pairwise_locate (start : Nat) (tokens : List (Token α)) :
    (locate start tokens).Pairwise fun entry later => entry.1 + entry.2.raw.length ≤ later.1 := by
  induction tokens generalizing start with
  | nil => exact .nil
  | cons token tokens ih =>
      refine List.pairwise_cons.2 ⟨fun ⟨column, later⟩ behind => ?_, ih _⟩
      obtain ⟨first, last, _, rfl⟩ := mem_locate_iff.1 behind
      exact Nat.le_add_right _ _

/-- Hits stand one behind the other. -/
theorem pairwise_hitsAt (p : Pattern α) (t : Text) :
    (p.hitsAt t).Pairwise fun place later => place.1 + place.2.raw.length ≤ later.1 := by
  refine List.pairwise_filterMap.2 ((pairwise_locate 0 (p.scan t)).imp ?_)
  rintro ⟨column, token⟩ ⟨behind, next⟩ before place here later there
  cases token with
  | plain c => exact absurd here (by simp)
  | hit first =>
      cases next with
      | plain c => exact absurd there (by simp)
      | hit second =>
          obtain rfl := Option.some.inj here
          obtain rfl := Option.some.inj there
          exact before

/-- Hits are found in the order of their places. -/
theorem hits_eq_map_hitsAt (p : Pattern α) (t : Text) : p.hits t = (p.hitsAt t).map Prod.snd := by
  have tokens := map_snd_locate 0 (p.scan t)
  rw [hits, hitsAt, List.map_filterMap, ← tokens, List.filterMap_map, tokens]
  congr 1
  funext entry
  rcases entry with ⟨column, c | hit⟩ <;> rfl

/-- A hit is placed behind the tokens in front of it. -/
theorem mem_hitsAt_iff {p : Pattern α} {t : Text} {column : Nat} {hit : Hit α} :
    (column, hit) ∈ p.hitsAt t ↔ ∃ first last, p.scan t = first ++ .hit hit :: last ∧
      (first.flatMap Token.raw).length = column := by
  have located := @mem_locate_iff α column 0 (p.scan t) (.hit hit)
  simp only [Nat.zero_add] at located
  rw [← located, hitsAt, List.mem_filterMap]
  constructor
  · rintro ⟨⟨place, token⟩, inside, same⟩
    cases token with
    | plain c => exact absurd same (by simp)
    | hit other =>
        obtain ⟨rfl, rfl⟩ := Prod.mk.inj (Option.some.inj same)
        exact inside
  · intro inside
    exact ⟨(column, .hit hit), inside, rfl⟩

/-- What has a place is a hit. -/
theorem mem_hits_of_mem_hitsAt {p : Pattern α} {t : Text} {column : Nat} {hit : Hit α}
    (inside : (column, hit) ∈ p.hitsAt t) : hit ∈ p.hits t := by
  obtain ⟨first, last, scan, _⟩ := mem_hitsAt_iff.1 inside
  exact mem_hits_iff.2 ⟨first, last, scan⟩

/-- A hit is read where it is said to stand. -/
theorem read_of_mem_hitsAt {p : Pattern α} {t : Text} {column : Nat} {hit : Hit α}
    (inside : (column, hit) ∈ p.hitsAt t) : ∃ rest, p.read (t.drop column) = some (hit, rest) := by
  obtain ⟨first, last, scan, rfl⟩ := mem_hitsAt_iff.1 inside
  have whole := eq_append_of_scan scan
  rw [List.flatMap_cons] at whole
  rw [whole, List.drop_left]
  exact ⟨_, read_of_scan scan⟩

/-- The only hit that begins at a cut is the tag that stands there. -/
theorem Cuts.mem_hitsAt_iff {p : Pattern α} {u v rest : Text} {hit other : Hit α}
    (cut : p.Cuts u v) (read : p.read v = some (hit, rest)) :
    (u.length, other) ∈ p.hitsAt (u ++ v) ↔ other = hit := by
  rw [Pattern.mem_hitsAt_iff]
  constructor
  · rintro ⟨first, last, scan, width⟩
    have whole := eq_append_of_scan scan
    obtain ⟨_, rfl⟩ := List.append_inj whole width.symm
    have here := read_of_scan scan
    rw [List.flatMap_cons] at read
    exact (Prod.mk.inj (Option.some.inj (here.symm.trans read))).1
  · rintro rfl
    obtain ⟨first, scan, raw⟩ := cut.scan_of_read read
    exact ⟨first, _, scan, by rw [raw]⟩

/-! ### Shallow patterns -/

/-- The tags of a pattern are two braces around a body without closing braces, and what it reads
there depends on the body alone. -/
structure Shallow (p : Pattern α) : Prop where
  directive : ∀ {t : Text} {hit : Hit α} {rest : Text}, p.read t = some (hit, rest) →
    ∃ body, '}' ∉ body ∧ hit.raw = (Segment.directive body).raw
  whole : ∀ {body : Text}, '}' ∉ body → p.ReadsWhole body

namespace Shallow

variable {p : Pattern α}

/-- A shallow pattern is a bracketed one. -/
theorem bracketed (hp : p.Shallow) : p.Bracketed := by
  intro t hit rest read
  obtain ⟨body, _, raw⟩ := hp.directive read
  exact ⟨body ++ Directive.closing, by rw [raw, Segment.raw, List.append_assoc]⟩

/-- What is read is the tag's body. -/
theorem body_of_read (hp : p.Shallow) {t rest : Text} {hit : Hit α}
    (read : p.read t = some (hit, rest)) :
    ∃ body, '}' ∉ body ∧ hit.raw = (Segment.directive body).raw ∧
      p.valueOf? body = some hit.value := by
  obtain ⟨body, closed, raw⟩ := hp.directive read
  have here := hp.whole closed rest
  rw [← raw, p.raw_append read, read] at here
  obtain ⟨value, found, same⟩ := Option.map_eq_some_iff.1 here.symm
  have value := congrArg Hit.value (Prod.mk.inj same).1
  exact ⟨body, closed, raw, found.trans (congrArg some value)⟩

/-- Where a shallow pattern knows the body of a directive, it reads the directive. -/
theorem read_of_valueOf? (hp : p.Shallow) {body : Text} {value : α} (closed : '}' ∉ body)
    (found : p.valueOf? body = some value) (rest : Text) :
    p.read ((Segment.directive body).raw ++ rest) =
      some (⟨(Segment.directive body).raw, value⟩, rest) := by
  rw [hp.whole closed rest, found]
  rfl

/-- Shallow patterns read flat segments whole or not at all. -/
theorem reads (hp : p.Shallow) {segment : Segment} (flat : segment.isFlat = true) :
    p.Reads segment := by
  refine hp.bracketed.reads flat ?_
  rintro body rfl
  exact hp.whole (Text.not_mem_of_isBraceFree flat)

/-- A tag is read alike whatever stands behind it. -/
theorem read_raw_append (hp : p.Shallow) {t rest : Text} {hit : Hit α}
    (read : p.read t = some (hit, rest)) (other : Text) :
    p.read (hit.raw ++ other) = some (hit, other) := by
  obtain ⟨body, closed, raw, found⟩ := hp.body_of_read read
  rw [raw, hp.read_of_valueOf? closed found, ← raw]

/-- What a shallow pattern reads does not depend on what comes behind. -/
theorem read_append (hp : p.Shallow) {t rest : Text} {hit : Hit α}
    (read : p.read t = some (hit, rest)) (more : Text) :
    p.read (t ++ more) = some (hit, rest ++ more) := by
  rw [← p.raw_append read, List.append_assoc, hp.read_raw_append read]

/-- Of two shallow patterns, trying one after the other is shallow. -/
theorem orElse (hp : p.Shallow) {q : Pattern α} (hq : q.Shallow) : (p.orElse q).Shallow where
  directive {t hit rest} read := by
    simp only [Pattern.orElse] at read
    split at read
    · rename_i found first
      rw [Option.some.inj read] at first
      exact hp.directive first
    · exact hq.directive read
  whole closed := (hp.whole closed).orElse (hq.whole closed)

/-- Tokens in front of a cut are those of the text in front of it by itself. -/
theorem scan_of_cuts (hp : p.Shallow) {u v : Text} (cut : p.Cuts u v) :
    p.scan (u ++ v) = p.scan u ++ p.scan v := by
  obtain ⟨first, scan, raw⟩ := cut
  suffices same : p.scan u = first by rw [scan, same]
  induction first generalizing u with
  | nil =>
      obtain rfl : u = [] := by rw [← raw]; rfl
      rfl
  | cons token first ih =>
      rw [List.flatMap_cons] at raw
      cases token with
      | plain c =>
          obtain ⟨rest, same, unread, behind⟩ := read_of_scan_plain scan
          subst raw
          obtain rfl : first.flatMap Token.raw ++ v = rest := (List.cons.inj same).2
          have alone : p.read (c :: first.flatMap Token.raw) = none := by
            cases read : p.read (c :: first.flatMap Token.raw) with
            | none => rfl
            | some found =>
                have longer := hp.read_append read v
                exact absurd (unread.symm.trans longer) (by simp)
          exact (scan_of_not_read alone).trans (congrArg _ (ih behind rfl))
      | hit hit =>
          obtain ⟨rest, read, behind⟩ := read_of_scan_hit scan
          subst raw
          have whole := p.raw_append read
          rw [List.append_assoc] at whole
          obtain rfl : rest = first.flatMap Token.raw ++ v := List.append_cancel_left whole
          have alone := hp.read_raw_append read (first.flatMap Token.raw)
          exact (scan_of_read alone).trans (congrArg _ (ih behind rfl))

/-- The text of the first tokens of a scan is by itself scanned into these. -/
theorem scan_first (hp : p.Shallow) {t : Text} {first last : List (Token α)}
    (scan : p.scan t = first ++ last) : p.scan (first.flatMap Token.raw) = first := by
  have parts := hp.scan_of_cuts (cuts_of_scan scan)
  rw [← eq_append_of_scan scan, scan_of_scan_append scan, scan] at parts
  exact (List.append_cancel_right parts).symm

/-- A hit that lies across the beginning of a directive ends where that ends. -/
theorem outer_of_overlap (hp : p.Shallow) {u body rest : Text} (closed : '}' ∉ body)
    (o : p.Overlap u ((Segment.directive body).raw ++ rest)) :
    ∃ outer, '}' ∉ outer ∧ p.valueOf? outer = some o.hit.value ∧
      o.hit.raw = (Segment.directive outer).raw ∧ o.after = rest ∧
      Directive.opening ++ outer = o.inFirst ++ (Directive.opening ++ body) := by
  obtain ⟨outer, clear, raw, found⟩ := hp.body_of_read (read_of_scan o.scan)
  refine ⟨outer, clear, found, raw, ?_⟩
  have opened : '}' ∉ Directive.opening ++ outer := by simpa [Directive.opening] using clear
  have back : ('{' :: '{' :: body) ++ '}' :: '}' :: rest = o.inSecond ++ o.after :=
    (Segment.raw_directive_append body rest).symm.trans o.back
  have halves : Directive.opening ++ outer ++ Directive.closing = o.inFirst ++ o.inSecond :=
    raw.symm.trans o.raw
  rcases List.append_eq_append_iff.1 halves with ⟨left, _, short⟩ | ⟨front, whole, second⟩
  · -- The second part of the hit begins with a brace that is not among the closing ones.
    obtain ⟨c, others, same⟩ := List.exists_cons_of_ne_nil o.ends
    rw [same] at back short
    have inside : c ∈ Directive.closing := short ▸ List.mem_append_right left List.mem_cons_self
    rw [← (List.cons.inj back).1] at inside
    exact absurd inside (by decide)
  · have clear : '}' ∉ front := fun inside => opened (whole ▸ List.mem_append_right _ inside)
    rw [second, List.append_assoc] at back
    have same : ('{' :: '{' :: body) ++ '}' :: '}' :: rest = front ++ '}' :: '}' :: o.after := back
    have lead : '}' ∉ '{' :: '{' :: body := by simpa using closed
    obtain ⟨rfl, behind⟩ := Text.append_stop_inj lead clear same
    exact ⟨(List.cons.inj behind).2.symm, whole⟩

/-- The body of a hit that lies across the beginning of a directive ends in an opening brace and the
body of the directive. -/
theorem lead_of_overlap (hp : p.Shallow) {u body rest : Text} (closed : '}' ∉ body)
    (o : p.Overlap u ((Segment.directive body).raw ++ rest)) :
    ∃ lead, '}' ∉ lead ++ '{' :: body ∧ p.valueOf? (lead ++ '{' :: body) = some o.hit.value ∧
      o.hit.raw = (Segment.directive (lead ++ '{' :: body)).raw := by
  obtain ⟨outer, clear, found, raw, _, whole⟩ := hp.outer_of_overlap closed o
  obtain ⟨c, front, first⟩ := List.exists_cons_of_ne_nil o.begins
  rw [first] at whole
  have second : '{' :: outer = front ++ '{' :: '{' :: body := (List.cons.inj whole).2
  obtain ⟨lead, rfl⟩ : ∃ lead, outer = lead ++ '{' :: body := by
    cases front with
    | nil => exact ⟨[], (List.cons.inj second).2⟩
    | cons d front => exact ⟨front ++ ['{'], by simpa using (List.cons.inj second).2⟩
  exact ⟨lead, clear, found, raw⟩

end Shallow

/-! ### Separate patterns -/

/-- Each tag of a pattern that stands in a text is hit, whatever precedes it. -/
def Separate (p : Pattern α) : Prop :=
  ∀ {u v rest : Text} {hit : Hit α}, p.read v = some (hit, rest) → p.Cuts u v

/-- A shallow pattern is separate if no tag can begin inside the body of another. -/
theorem Shallow.separate {p : Pattern α} (hp : p.Shallow)
    (apart : ∀ {lead inner : Text}, '}' ∉ lead ++ '{' :: inner →
      (p.valueOf? inner).isSome = true → p.valueOf? (lead ++ '{' :: inner) = none) :
    p.Separate := by
  intro u v rest hit read
  obtain ⟨body, closed, raw, found⟩ := hp.body_of_read read
  rcases p.cuts_or_overlap u v with cut | overlap
  · exact cut
  · rw [← p.raw_append read, raw] at overlap
    obtain ⟨o⟩ := overlap
    obtain ⟨lead, clear, same, _⟩ := hp.lead_of_overlap closed o
    rw [apart clear (by rw [found]; rfl)] at same
    exact absurd same (by simp)

/-! ### Hits and the lines they stand on -/

/-- The values of the hits among tokens, each with the number of its line. -/
def numbered (line : Nat) : List (Token α) → List (Nat × α)
  | [] => []
  | .plain c :: tokens => numbered (if c = '\n' then line + 1 else line) tokens
  | .hit h :: tokens => (line, h.value) :: numbered (line + h.raw.count '\n') tokens

/-- Tokens behind others are numbered from the line where these end. -/
theorem numbered_append (line : Nat) (first last : List (Token α)) :
    numbered line (first ++ last) =
      numbered line first ++ numbered (line + (first.flatMap Token.raw).count '\n') last := by
  induction first generalizing line with
  | nil => rfl
  | cons token first ih =>
      cases token with
      | plain c =>
          by_cases feed : c = '\n'
          · simp [numbered, ih, Token.raw, feed, Nat.add_assoc, Nat.add_comm]
          · simp [numbered, ih, Token.raw, feed]
      | hit h => simp [numbered, ih, Token.raw, Nat.add_assoc]

/-- All tags that are hit in a text stand on one line. -/
def Linear (p : Pattern α) (t : Text) : Prop :=
  ∀ hit ∈ p.hits t, '\n' ∉ hit.raw

instance (p : Pattern α) (t : Text) : Decidable (p.Linear t) :=
  inferInstanceAs (Decidable (∀ hit ∈ p.hits t, '\n' ∉ hit.raw))

/-- On one line all hits have its number. -/
theorem numbered_eq_hits {p : Pattern α} {t : Text} (plain : '\n' ∉ t) (line : Nat) :
    numbered line (p.scan t) = (p.hits t).map fun hit => (line, hit.value) := by
  have feeds : '\n' ∉ (p.scan t).flatMap Token.raw := by rwa [scan_flatMap_raw]
  rw [hits]
  generalize p.scan t = tokens at feeds
  induction tokens with
  | nil => rfl
  | cons token tokens ih =>
      rw [List.flatMap_cons, List.mem_append, not_or] at feeds
      cases token with
      | plain c =>
          have other : c ≠ '\n' := by simpa [Token.raw, eq_comm] using feeds.1
          simp [numbered, other, ih feeds.2]
      | hit h =>
          have unbroken : h.raw.count '\n' = 0 := List.count_eq_zero.2 feeds.1
          simp [numbered, unbroken, ih feeds.2]

/-- If all tags stand on one line, scanning line by line hits them as scanning the text does. -/
theorem Shallow.hits_lines {p : Pattern α} (hp : p.Shallow) {t : Text} (linear : p.Linear t)
    (line : Nat) :
    (((Text.lines t).zipIdx line).flatMap fun (content, number) =>
        (p.hits content).map fun hit => (number, hit.value)) = numbered line (p.scan t) := by
  induction length : t.length using Nat.strongRecOn generalizing t line with
  | ind n ih =>
      rcases Text.lines_cases t with single | ⟨first, rest, single, rfl⟩
      · rw [Text.lines_of_not_mem single, numbered_eq_hits single]
        simp
      · have cut : p.Cuts first ('\n' :: rest) := by
          -- A hit across the end of the line would hold a newline.
          rcases p.cuts_or_overlap first ('\n' :: rest) with cut | overlap
          · exact cut
          · obtain ⟨o⟩ := overlap
            have plain := linear o.hit (mem_hits_iff.2 ⟨o.first, _, o.scan⟩)
            obtain ⟨c, back, same⟩ := List.exists_cons_of_ne_nil o.ends
            have begins := o.back
            rw [same, List.cons_append] at begins
            obtain ⟨rfl, _⟩ := List.cons.inj begins
            exact absurd (by simp [o.raw, same]) plain
        have scan := hp.scan_of_cuts cut
        rw [scan_of_not_read (hp.bracketed.read_cons (by decide) rest)] at scan
        have later : p.Linear rest := by
          intro hit inside
          obtain ⟨front, back, found⟩ := mem_hits_iff.1 inside
          refine linear hit (mem_hits_iff.2 ⟨p.scan first ++ .plain '\n' :: front, back, ?_⟩)
          rw [scan, found]
          simp
        have shorter : rest.length < n := by
          rw [← length]
          simp
          omega
        have unbroken : first.count '\n' = 0 := List.count_eq_zero.2 single
        rw [Text.lines_line single, List.zipIdx_cons, List.flatMap_cons, ih _ shorter later _ rfl,
          scan, numbered_append, scan_flatMap_raw, numbered_eq_hits single, unbroken]
        simp [numbered]

end Pattern

/-! ### Patterns made from others -/

namespace Pattern

variable {α β : Type} {p q : Pattern α} {t : Text}

/-- What is read is read by one of the two patterns. -/
theorem read_orElse {found : Hit α × Text} (read : (p.orElse q).read t = some found) :
    p.read t = some found ∨ q.read t = some found := by
  simp only [orElse] at read
  split at read
  · rename_i first
    exact .inl (first.trans read)
  · exact .inr read

/-- Where the first pattern reads nothing, the second is tried. -/
theorem orElse_of_none (unread : p.read t = none) : (p.orElse q).read t = q.read t := by
  simp only [orElse, unread]

/-- What the first pattern reads is read. -/
theorem orElse_of_some {found : Hit α × Text} (read : p.read t = some found) :
    (p.orElse q).read t = some found := by
  simp only [orElse, read]

/-- A block begins with its opener. -/
theorem opener_of_block {closer : Pattern β} {hit : Hit (α × Text)} {rest : Text}
    (read : (p.block closer).read t = some (hit, rest)) :
    ∃ opening middle behind, p.read t = some (opening, middle) ∧ hit.raw = opening.raw ++ behind ∧
      hit.value.1 = opening.value := by
  simp only [block] at read
  split at read
  · exact absurd read (by simp)
  · rename_i opening middle first
    split at read
    · exact absurd read (by simp)
    · rename_i body closing after second
      obtain ⟨rfl, _⟩ := Prod.mk.inj (Option.some.inj read)
      exact ⟨opening, middle, body ++ closing.raw, first, List.append_assoc .., rfl⟩

end Pattern

/-! ### Shapes -/

namespace Shape

/-- A hit of a shape is what its parts take, one piece a part. -/
theorem take?_of_read {α : Type} {shape : Shape} {value : List Text → α}
    {solid : shape.isSolid = true} {t rest : Text} {hit : Hit α}
    (read : (Shape.pattern shape value solid).read t = some (hit, rest)) :
    ∃ pieces, shape.take? t = some (pieces, rest) ∧ hit = ⟨pieces.flatten, value pieces⟩ := by
  simp only [pattern] at read
  split at read
  · exact absurd read (by simp)
  · rename_i pieces after taken
    obtain ⟨rfl, rfl⟩ := Prod.mk.inj (Option.some.inj read)
    exact ⟨pieces, taken, rfl⟩

/-- The pieces of a directive are its braces and what the inner shape takes. -/
theorem take?_directive_eq_some {shape : Shape} {t rest : Text} {pieces : List Text}
    (taken : take? (.opens :: (shape ++ [.closes])) t = some (pieces, rest)) :
    ∃ inner, shape.take? (inner.flatten ++ (Directive.closing ++ rest)) =
        some (inner, Directive.closing ++ rest) ∧
      pieces = Directive.opening :: (inner ++ [Directive.closing]) := by
  obtain ⟨_, middle, others, first, second, rfl⟩ := take?_cons taken
  obtain ⟨_, _, opened⟩ := Option.map_eq_some_iff.1 first
  obtain ⟨rfl, _⟩ := Prod.mk.inj opened
  rw [take?_append] at second
  obtain ⟨⟨inner, left⟩, found, ends⟩ := Option.bind_eq_some_iff.1 second
  obtain ⟨⟨last, behind⟩, closed, joined⟩ := Option.map_eq_some_iff.1 ends
  obtain ⟨rfl, rfl⟩ := Prod.mk.inj joined
  obtain ⟨_, _, _, closing, ended, rfl⟩ := take?_cons closed
  obtain ⟨_, _, same⟩ := Option.map_eq_some_iff.1 closing
  obtain ⟨rfl, _⟩ := Prod.mk.inj same
  obtain ⟨rfl, _⟩ := Prod.mk.inj (Option.some.inj ended)
  have rest : Directive.closing ++ behind = left := by simpa using take?_flatten closed
  subst rest
  exact ⟨inner, (congrArg _ (take?_flatten found)).trans found, rfl⟩

/-- Directives with an inner shape that takes no closing brace are shallow. -/
theorem shallow_pattern {α : Type} (shape : Shape) {value : List Text → α}
    {solid : isSolid (.opens :: (shape ++ [.closes])) = true}
    (avoids : shape.all Part.avoidsClosing = true) :
    (Shape.pattern (.opens :: (shape ++ [.closes])) value solid).Shallow where
  directive {t hit rest} read := by
    obtain ⟨pieces, taken, rfl⟩ := take?_of_read read
    obtain ⟨inner, found, rfl⟩ := take?_directive_eq_some taken
    exact ⟨inner.flatten, not_mem_of_take? (by rwa [Part.avoids_closing]) found,
      by simp [Segment.raw]⟩
  whole closed := (readsWhole_pattern shape (staysInside avoids _) closed).1

end Shape

end MailTemplate
