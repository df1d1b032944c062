import Rematch.Proofs.LongestPattern
import Rematch.Proofs.Progress

/-!
# The descent and the reader

What the parsers of one level take is what the reader takes between two parentheses. The level ends
before a bar, a parenthesis or a text without a token, or before a group that is not closed. In a group
that is not closed the reader is blocked further on, while the descent gives the group up and ends before
it.
-/

namespace Rematch

open Token

namespace Reader

variable {r r' : Reader} {input rest : List Char} {ctx : Descent.Context} {e : PatternError}

inductive Halts (r : Reader) (ctx : Descent.Context) : List Char → Prop
  /-- No more is there at this level. -/
  | pending {rest : List Char} (counted : ctx.groups = r.groups)
      (ends : ∀ token next, scan r.afterItem rest = some (token, next) →
        token = .bar ∨ token = .closing) :
      Halts r ctx rest
  /-- A group is there in which reading is blocked. -/
  | unclosed {text rest : List Char} {r' : Reader} (inner : List OpenGroup) {group : OpenGroup}
      (reads : r.Reads ('(' :: text) r' rest) (blocked : r'.Blocked rest)
      (within : r'.opened = inner ++ group :: r.opened) (start : group.source = '(' :: text) :
      Halts r ctx ('(' :: text)

def Meets (r : Reader) (input : List Char) (e : PatternError) : Prop :=
  ∃ r' rest token next, r.Reads input r' rest ∧ scan r'.afterItem rest = some (token, next) ∧
    r'.accept rest token = some (.error e)

theorem Meets.after (h : r'.Meets rest e) (reads : r.Reads input r' rest) : r.Meets input e := by
  obtain ⟨last, text, token, next, later, scanned, refused⟩ := h
  exact ⟨last, text, token, next, reads.trans later, scanned, refused⟩

theorem Halts.bar (h : r.Halts ctx ('|' :: rest)) :
    ctx.groups = r.groups ∧ r.Reads ('|' :: rest) { r with current := r.current.next } rest := by
  cases h with
  | pending counted ends =>
      have scanned : scan r.afterItem ('|' :: rest) = some (.bar, rest) :=
        scan_of_plain (fun _ => rfl) .bar
      exact ⟨counted, .single scanned .bar⟩

end Reader

namespace Descent

open Descent.Parser Reader

variable {α β : Type}

/-- What the reader does where a parser replies. -/
inductive Follows (r : Reader) (input : List Char) (taken : List Char → α → Context → Prop)
    (refused : Context → Prop) : Reply α × Context → Prop
  | ok {rest : List Char} {a : α} {ctx : Context} (reached : taken rest a ctx) :
      Follows r input taken refused (.ok rest a, ctx)
  | error {setback : Setback} {ctx : Context} (halted : refused ctx) :
      Follows r input taken refused (.error setback, ctx)
  | failure {setback : Setback} {ctx : Context} {e : PatternError} (meets : r.Meets input e)
      (recorded : ctx.error = some e) : Follows r input taken refused (.failure setback, ctx)

/-- What is done after a run is done by the run and what comes after it. -/
theorem Follows.prepend {r r' : Reader} {input next : List Char} {result : Reply α × Context}
    {taken taken' : List Char → α → Context → Prop} {refused : Context → Prop}
    (h : Follows r' next taken' (fun _ => False) result) (reads : r.Reads input r' next)
    (reached : ∀ rest a ctx, taken' rest a ctx → taken rest a ctx) :
    Follows r input taken refused result := by
  cases h with
  | ok found => exact .ok (reached _ _ _ found)
  | error halted => exact halted.elim
  | failure meets recorded => exact .failure (meets.after reads) recorded

/-- Where the reader follows a parser, and then what is done with the value, it follows both. -/
theorem Follows.bind {p : Parser α} {q : α → Parser β} {r : Reader} {input text : List Char}
    {ctx : Context} {taken : List Char → α → Context → Prop} {taken' : List Char → β → Context → Prop}
    {refused refused' : Context → Prop} (h : Follows r input taken refused (p text ctx))
    (halted : ∀ ctx', refused ctx' → refused' ctx')
    (later : ∀ rest a ctx', p text ctx = (.ok rest a, ctx') → taken rest a ctx' →
      Follows r input taken' refused' (q a rest ctx')) :
    Follows r input taken' refused' ((p >>= q) text ctx) := by
  rcases replied : p text ctx with ⟨⟨rest, a⟩ | setback | setback, ctx'⟩
  all_goals rw [replied] at h
  · rw [bind_of_ok replied]
    cases h with
    | ok found => exact later rest a ctx' replied found
  · rw [bind_of_error replied]
    cases h with
    | error refused => exact .error (halted ctx' refused)
  · rw [bind_of_failure replied]
    cases h with
    | failure meets recorded => exact .failure meets recorded

/-- The reader and the context agree, and no error and no sign are left to be seen to. -/
structure Ready (r : Reader) (ctx : Context) (input : List Char) : Prop where
  counted : ctx.groups = r.groups
  clean : ctx.error = none
  noSign : r.afterItem = true → scanRepeats input = none

variable (lib : Combinators)

/-! ## Atoms -/

def added (r : Reader) (groups : Nat) (p : Pattern) : Reader :=
  { r with current := r.current.add p, groups }

def TakesItem (r : Reader) (input rest : List Char) (p : Pattern) (ctx : Context) : Prop :=
  r.Reads input (added r ctx.groups p) rest

theorem itemOf?_eq_some {found : Option (Token × List Char)} {p : Pattern} {rest : List Char}
    (h : itemOf? found = some (p, rest)) : found = some (.item p, rest) := by
  unfold itemOf? at h
  split at h
  · cases h
    rfl
  · contradiction

theorem eq_bar_or_closing_of_plain {input rest : List Char} {token : Token}
    (plain : Plain input token rest) (noItem : itemOf? (scanPlain input) = none)
    (noGroup : ∀ rest, input = '(' :: rest → False) : token = .bar ∨ token = .closing := by
  rw [scanPlain_eq_some_iff.mpr plain] at noItem
  cases plain with
  | bar => exact .inl rfl
  | closing => exact .inr rfl
  | opening => exact (noGroup _ rfl).elim
  | charClass scanned =>
      obtain ⟨_, _, ⟨_, _, _, rfl⟩ | ⟨_, _, rfl⟩⟩ := scanClass_eq_some_iff.mp scanned
      all_goals contradiction
  | _ => contradiction

theorem follows_plain_atom {r : Reader} {ctx : Context} {input : List Char} (ready : Ready r ctx input)
    (noGroup : ∀ rest, input = '(' :: rest → False) (body : Parser Pattern) :
    Follows r input (TakesItem r input) (fun ctx => r.Halts ctx input) (atom lib body input ctx) := by
  have agrees := atom_agrees lib noGroup body ctx
  generalize atom lib body input ctx = result at agrees ⊢
  generalize scanned : itemOf? (scanPlain input) = found at agrees
  cases agrees with
  | found p rest =>
      have plain := scanPlain_eq_some_iff.mp (itemOf?_eq_some scanned)
      have reads := Reads.single (scan_of_plain ready.noSign plain) (.item p)
      refine .ok ?_
      rw [TakesItem, added, ready.counted]
      exact reads
  | refused setback =>
      refine .error (.pending ready.counted fun token next found => ?_)
      rcases scan_cases found with ⟨item, repeats⟩ | ⟨_, plain⟩
      · rw [ready.noSign item] at repeats
        contradiction
      · exact eq_bar_or_closing_of_plain plain scanned noGroup

/-! ## Groups -/

structure EndsLevel (r : Reader) (input rest : List Char) (p : Pattern) (ctx : Context) (r' : Reader) :
    Prop where
  reads : r.Reads input r' rest
  opened : r'.opened = r.opened
  made : r'.current.toPattern = p
  halts : r'.Halts ctx rest
  noBar : ∀ next, rest = '|' :: next → False

/-- On texts shorter than a limit, a parser takes the branches of a level, and refuses no text. -/
def FollowsLevel (limit : Nat) (p : Parser Pattern) : Prop :=
  ∀ r input ctx, input.length < limit → r.current = {} → ctx.groups = r.groups → ctx.error = none →
    Follows r input (fun rest q ctx => ∃ r', EndsLevel r input rest q ctx r') (fun _ => False)
      (p input ctx)

def entered (r : Reader) (source : List Char) (kind : Grouping) : Reader :=
  let groups := if kind = .capturing then r.groups + 1 else r.groups
  { current := {}, opened := { kind, index := groups, around := r.current, source } :: r.opened, groups }

theorem apply_index {kind : Grouping} {m n : Nat} (same : kind = .capturing → m = n) (p : Pattern) :
    kind.apply m p = kind.apply n p := by
  cases kind with
  | capturing => rw [same rfl]
  | _ => rfl

theorem groupIndex_apply {r : Reader} {ctx : Context} (counted : ctx.groups = r.groups)
    (clean : ctx.error = none) (kind : Grouping) (source input : List Char) :
    ∃ index ctx', groupIndex kind input ctx = (.ok input index, ctx') ∧
      ctx'.groups = (entered r source kind).groups ∧ ctx'.error = none ∧
      ∀ p, kind.apply index p = kind.apply (entered r source kind).groups p := by
  by_cases capturing : kind = .capturing
  · exact ⟨ctx.groups + 1, { ctx with groups := ctx.groups + 1 }, by simp [groupIndex, capturing],
      by simp [entered, capturing, counted], clean, apply_index (by simp [entered, capturing, counted])⟩
  · exact ⟨0, ctx, by simp [groupIndex, capturing], by simp [entered, capturing, counted], clean,
      apply_index (absurd · capturing)⟩

theorem EndsLevel.unclosed {r r' : Reader} {text start rest : List Char} {kind : Grouping} {p : Pattern}
    {ctx : Context} (opening : r.Reads ('(' :: text) (entered r ('(' :: text) kind) start)
    (ends : EndsLevel (entered r ('(' :: text) kind) start rest p ctx r')
    (noClosing : ∀ next, rest = ')' :: next → False) : r.Halts ctx ('(' :: text) := by
  obtain ⟨reads, opened, -, halts, noBar⟩ := ends
  cases halts with
  | pending _ ends =>
      refine .unclosed [] (opening.trans reads) ⟨fun token next scanned => ?_, ?_⟩ opened rfl
      · obtain rfl | rfl := ends token next scanned
        · exact (noBar next (spelling_of_scan scanned)).elim
        · exact (noClosing next (closing_of_scan scanned)).elim
      · intro _
        simp [opened, entered]
  | @unclosed _ _ last inner group reads' blocked within start =>
      rw [opened] at within
      exact .unclosed (inner ++ [group]) ((opening.trans reads).trans reads') blocked
        (by rw [within, List.append_assoc]; rfl) rfl

theorem EndsLevel.counted {r r' : Reader} {input next : List Char} {p : Pattern} {ctx : Context}
    (ends : EndsLevel r input (')' :: next) p ctx r') : ctx.groups = r'.groups := by
  cases ends.halts with
  | pending counted _ => exact counted

/-- Behind its body a group is closed, which can be an error, or it is not. -/
theorem follows_closing {r r' : Reader} {ctx : Context} {text start rest : List Char} {kind : Grouping}
    {inner : Pattern} {index : Nat} (opening : r.Reads ('(' :: text) (entered r ('(' :: text) kind) start)
    (ends : EndsLevel (entered r ('(' :: text) kind) start rest inner ctx r') (clean : ctx.error = none)
    (sameIndex : kind.apply index inner = kind.apply (entered r ('(' :: text) kind).groups inner) :
    Follows r ('(' :: text) (TakesItem r ('(' :: text)) (fun ctx => r.Halts ctx ('(' :: text))
      ((do
        let _ ← lib.char ')'
        settle start (kind.apply index inner) : Parser Pattern) rest ctx) := by
  by_cases closes : ∃ next, rest = ')' :: next
  · obtain ⟨next, rfl⟩ := closes
    rw [bind_of_ok ((lib.char_computes ')').of_some (first?_self _ _) ctx)]
    have scanned : scan r'.afterItem (')' :: next) = some (.closing, next) :=
      scan_of_plain (fun _ => rfl) .closing
    have whole := opening.trans ends.reads
    cases made : kind.apply index inner with
    | ok item =>
        rw [sameIndex, ← ends.made] at made
        refine .ok ?_
        rw [TakesItem, added, ends.counted]
        exact whole.trans (.single scanned (.closing ends.opened made))
    | error e =>
        rw [sameIndex, ← ends.made] at made
        refine .failure ⟨r', _, _, _, whole, scanned, ?_⟩ (by rw [clean]; rfl)
        simp only [accept, ends.opened]
        exact congrArg some (map_eq_error_iff.mpr made)
  · have noClosing next (same : rest = ')' :: next) : False := closes ⟨next, same⟩
    obtain ⟨setback, refused⟩ := (lib.char_computes ')').of_none (first?_of_ne noClosing) ctx
    rw [bind_of_error refused]
    exact .error (ends.unclosed opening noClosing)

/-- A group is taken, is not closed, or has an error in it. -/
theorem follows_group {limit : Nat} {body : Parser Pattern} (h : FollowsLevel limit body)
    (lawful : body.Lawful 0) {r : Reader} {ctx : Context} {text : List Char}
    (ready : Ready r ctx ('(' :: text)) (short : text.length < limit) :
    Follows r ('(' :: text) (TakesItem r ('(' :: text)) (fun ctx => r.Halts ctx ('(' :: text))
      (grouped lib body ('(' :: text) ctx) := by
  cases sign : scanGrouping text with
  | mk kind start =>
  have opening := Reads.single (scan_of_plain ready.noSign (.opening sign)) (.opening kind rfl)
  obtain ⟨index, inside, numbered, counted, clean, sameIndex⟩ :=
    groupIndex_apply ready.counted ready.clean kind ('(' :: text) start
  have reached : grouped lib body ('(' :: text) ctx = (do
      let inner ← body
      let _ ← lib.char ')'
      settle start (kind.apply index inner) : Parser Pattern) start inside := by
    rw [grouped, bind_of_ok ((lib.char_computes '(').of_some (first?_self _ _) ctx),
      bind_of_ok ((groupKind_computes lib).of_some (congrArg some sign) ctx), bind_of_ok numbered]
    rfl
  have shorter : start.length < limit := by
    have taken := (groupKind_lawful lib).of_ok ((groupKind_computes lib).of_some (congrArg some sign) ctx)
    obtain ⟨⟨front, rfl, _⟩, _⟩ := taken
    simp at short
    omega
  have level := h (entered r ('(' :: text) kind) start inside shorter rfl counted clean
  rw [reached]
  refine (level.prepend opening fun _ _ _ found => found).bind (fun _ (never : False) => never.elim)
    fun rest inner after replied found => ?_
  obtain ⟨r', ends⟩ := found
  exact follows_closing lib opening ends ((lawful.of_ok replied).2.trans clean) (sameIndex inner)

/-! ## Quantified atoms -/

theorem follows_atom {limit : Nat} {body : Parser Pattern} (h : FollowsLevel limit body)
    (lawful : body.Lawful 0) {r : Reader} {ctx : Context} {input : List Char} (ready : Ready r ctx input)
    (short : input.length ≤ limit) :
    Follows r input (TakesItem r input) (fun ctx => r.Halts ctx input) (atom lib body input ctx) := by
  by_cases group : ∃ text, input = '(' :: text
  · obtain ⟨text, rfl⟩ := group
    have follows := follows_group lib h lawful ready short
    obtain ⟨others, same, refuse⟩ := atom_parenthesis lib body text ctx
    rw [same]
    rcases replied : grouped lib body ('(' :: text) ctx with ⟨⟨rest, p⟩ | setback | setback, after⟩
    all_goals rw [replied] at follows
    · rwa [orElse_of_ok replied]
    · obtain ⟨setback', refused⟩ := refuse after
      rw [orElse_of_error replied, refused]
      cases follows with
      | error halted => exact .error halted
    · rwa [orElse_of_failure replied]
  · exact follows_plain_atom lib ready (fun rest same => group ⟨rest, same⟩) body

def replaced (r : Reader) (items : List Pattern) (p : Pattern) : Reader :=
  { r with current := { r.current with items := p :: items } }

theorem follows_signs {node : Pattern} {input : List Char} {ctx : Context}
    {result : Reply Pattern × Context} (run : Signs node input ctx result) (clean : ctx.error = none)
    (r : Reader) (items : List Pattern) :
    Follows (replaced r items node) input
      (fun rest p ctx' => ctx' = ctx ∧ scanRepeats rest = none ∧
        (replaced r items node).Reads input (replaced r items p) rest)
      (fun _ => False) result := by
  induction run with
  | stop noSign => exact .ok ⟨rfl, noSign, .refl _ _⟩
  | @next node node' input rest ctx min max result sign made later ih =>
      obtain ⟨inOrder, rfl⟩ := bounded_eq_ok_iff.mp made
      have scanned : scan (replaced r items node).afterItem input = some (.repeats min max, rest) := by
        simp [scan, afterItem, replaced, sign]
      have reads := Reads.single scanned (.repeats rfl inOrder)
      refine (ih clean).prepend reads fun rest' p ctx' found => ?_
      obtain ⟨same, noSign, onward⟩ := found
      exact ⟨same, noSign, reads.trans onward⟩
  | @outOfOrder node input rest ctx min max e sign refused =>
      have scanned : scan (replaced r items node).afterItem input = some (.repeats min max, rest) := by
        simp [scan, afterItem, replaced, sign]
      refine .failure ⟨_, _, _, _, .refl _ _, scanned, ?_⟩ (by rw [clean]; rfl)
      exact congrArg some (map_eq_error_iff.mpr refused)

theorem follows_quantified {limit : Nat} {body : Parser Pattern} (h : FollowsLevel limit body)
    (lawful : body.Lawful 0) {r : Reader} {ctx : Context} {input : List Char} (ready : Ready r ctx input)
    (short : input.length ≤ limit) :
    Follows r input (fun rest p ctx => scanRepeats rest = none ∧ TakesItem r input rest p ctx)
      (fun ctx => r.Halts ctx input) (quantified lib body input ctx) := by
  rw [quantified]
  refine (follows_atom lib h lawful ready short).bind (fun _ halted => halted)
    fun rest node after replied taken => ?_
  have clean : after.error = none := ((atom_lawful lib lawful).of_ok replied).2.trans ready.clean
  have signs := follows_signs (repeated_signs lib node rest after) clean
    { r with groups := after.groups } r.current.items
  refine signs.prepend taken fun rest' p ctx' found => ?_
  obtain ⟨rfl, noSign, reads⟩ := found
  exact ⟨noSign, taken.trans reads⟩

/-! ## Branches -/

def extended (r : Reader) (parts : List Pattern) (groups : Nat) : Reader :=
  { r with current := { r.current with items := parts.reverse ++ r.current.items }, groups }

theorem extended_added (r : Reader) (p : Pattern) (parts : List Pattern) (m n : Nat) :
    extended (added r m p) parts n = extended r (p :: parts) n := by
  simp [extended, added, Branches.add]

section Levels

variable {limit : Nat} {body : Parser Pattern} (h : FollowsLevel limit body) (lawful : body.Lawful 0)

include h lawful

theorem ready_of_quantified {r : Reader} {ctx between : Context} {input rest : List Char} {p : Pattern}
    (ready : Ready r ctx input) (short : input.length ≤ limit)
    (taken : quantified lib body input ctx = (.ok rest p, between)) :
    TakesItem r input rest p between ∧ Ready (added r between.groups p) between rest ∧
      rest.length ≤ limit := by
  have follows := follows_quantified lib h lawful ready short
  rw [taken] at follows
  cases follows with
  | ok found =>
      have quantifiedLawful := quantified_lawful lib lawful
      have clean := (quantifiedLawful.of_ok taken).2.trans ready.clean
      have shorter := quantifiedLawful.length_lt taken
      exact ⟨found.2, ⟨rfl, clean, fun _ => found.1⟩, by omega⟩

theorem follows_repeats {input : List Char} {ctx : Context} {result : Reply (List Pattern) × Context}
    (run : Combinators.Repeats (quantified lib body) input ctx result) {r : Reader}
    (ready : Ready r ctx input) (short : input.length ≤ limit) :
    Follows r input
      (fun rest parts ctx => ∃ groups, r.Reads input (extended r parts groups) rest ∧
        (extended r parts groups).Halts ctx rest)
      (fun _ => False) result := by
  induction run generalizing r with
  | stop refused =>
      have follows := follows_quantified lib h lawful ready short
      rw [refused] at follows
      cases follows with
      | error halted => exact .ok ⟨r.groups, .refl _ _, halted⟩
  | giveUp failed =>
      have follows := follows_quantified lib h lawful ready short
      rw [failed] at follows
      cases follows with
      | failure meets recorded => exact .failure meets recorded
  | @next input rest rest' ctx between ctx' p others taken later ih =>
      obtain ⟨item, ready', short'⟩ := ready_of_quantified lib h lawful ready short taken
      cases ih ready' short' with
      | ok found =>
          obtain ⟨groups, reads, halts⟩ := found
          rw [extended_added] at reads halts
          exact .ok ⟨groups, item.trans reads, halts⟩
  | giveUpLater taken later ih =>
      obtain ⟨item, ready', short'⟩ := ready_of_quantified lib h lawful ready short taken
      cases ih ready' short' with
      | failure meets recorded => exact .failure (meets.after item) recorded

/-- A branch is taken item by item, up to where the level ends or a bar stands. -/
theorem follows_sequence {r : Reader} {ctx : Context} {input : List Char} (ready : Ready r ctx input)
    (first : r.current.items = []) (short : input.length ≤ limit) :
    Follows r input
      (fun rest p ctx => ∃ r', r.Reads input r' rest ∧ r'.opened = r.opened ∧
        r'.current.earlier = r.current.earlier ∧ Pattern.concat r'.current.items.reverse = p ∧
        r'.Halts ctx rest)
      (fun _ => False) (sequence lib body input ctx) := by
  have run := lib.many0_repeats (quantified_lawful lib lawful) input ctx
  refine (follows_repeats lib h lawful run ready short).bind (fun _ => False.elim)
    fun rest parts after _ found => ?_
  obtain ⟨groups, reads, halts⟩ := found
  refine .ok ⟨_, reads, rfl, rfl, ?_, halts⟩
  simp [extended, first]

end Levels

theorem branch_cases (body : Parser Pattern) (input : List Char) (ctx : Context) :
    (∃ next, input = '|' :: next ∧ branch lib body input ctx = sequence lib body next ctx) ∨
      (∀ next, input = '|' :: next → False) ∧
        ∃ setback, branch lib body input ctx = (.error setback, ctx) := by
  rw [branch, lib.preceded_eq]
  by_cases bar : ∃ next, input = '|' :: next
  · obtain ⟨next, rfl⟩ := bar
    exact .inl ⟨next, rfl, bind_of_ok ((lib.char_computes '|').of_some (first?_self _ _) ctx)⟩
  · have noBar next (same : input = '|' :: next) : False := bar ⟨next, same⟩
    obtain ⟨setback, refused⟩ := (lib.char_computes '|').of_none (first?_of_ne noBar) ctx
    exact .inr ⟨noBar, setback, bind_of_error refused⟩

section Levels

variable {limit : Nat} {body : Parser Pattern} (h : FollowsLevel limit body) (lawful : body.Lawful 0)

include h lawful

theorem follows_branch {r : Reader} {ctx : Context} {input : List Char} (halts : r.Halts ctx input)
    (clean : ctx.error = none) (short : input.length ≤ limit) :
    Follows r input
      (fun rest p ctx => ∃ r', r.Reads input r' rest ∧ r'.opened = r.opened ∧
        r'.current.toPattern = .alternation r.current.toPattern p ∧ r'.Halts ctx rest)
      (fun ctx' => ctx' = ctx ∧ ∀ next, input = '|' :: next → False) (branch lib body input ctx) := by
  rcases branch_cases lib body input ctx with ⟨next, rfl, same⟩ | ⟨noBar, setback, refused⟩
  · obtain ⟨counted, bar⟩ := halts.bar
    have ready : Ready { r with current := r.current.next } ctx next :=
      ⟨counted, clean, fun item => by simp [afterItem, Branches.next] at item⟩
    rw [same]
    refine (follows_sequence lib h lawful ready rfl (Nat.le_of_succ_le short)).prepend bar ?_
    rintro rest p ctx ⟨r', reads, opened, earlier, made, halts⟩
    refine ⟨r', bar.trans reads, opened, ?_, halts⟩
    simp [Branches.toPattern, earlier, made, Branches.next]
  · rw [refused]
    exact .error ⟨rfl, noBar⟩

theorem follows_branches {input : List Char} {ctx : Context} {result : Reply (List Pattern) × Context}
    (run : Combinators.Repeats (branch lib body) input ctx result) {r : Reader} (halts : r.Halts ctx input)
    (clean : ctx.error = none) (short : input.length ≤ limit) :
    Follows r input
      (fun rest others ctx => ∃ r',
        EndsLevel r input rest (others.foldl .alternation r.current.toPattern) ctx r')
      (fun _ => False) result := by
  have branchLawful := branch_lawful lib lawful
  induction run generalizing r with
  | @stop input ctx ctx' setback refused =>
      have follows := follows_branch lib h lawful halts clean short
      rw [refused] at follows
      cases follows with
      | error halted =>
          obtain ⟨rfl, noBar⟩ := halted
          exact .ok ⟨r, .refl _ _, rfl, rfl, halts, noBar⟩
  | giveUp failed =>
      have follows := follows_branch lib h lawful halts clean short
      rw [failed] at follows
      cases follows with
      | failure meets recorded => exact .failure meets recorded
  | @next input rest rest' ctx between ctx' p others taken later ih =>
      have follows := follows_branch lib h lawful halts clean short
      rw [taken] at follows
      have clean' := (branchLawful.of_ok taken).2.trans clean
      have short' := Nat.le_trans (Nat.le_of_lt (branchLawful.length_lt taken)) short
      cases follows with
      | ok found =>
          obtain ⟨r', reads, opened, made, halts'⟩ := found
          cases ih halts' clean' short' with
          | ok found =>
              obtain ⟨last, ends⟩ := found
              refine .ok ⟨last, reads.trans ends.reads, ends.opened.trans opened, ?_, ends.halts,
                ends.noBar⟩
              rw [ends.made, made, List.foldl_cons]
  | @giveUpLater input rest ctx between ctx' p setback taken later ih =>
      have follows := follows_branch lib h lawful halts clean short
      rw [taken] at follows
      have clean' := (branchLawful.of_ok taken).2.trans clean
      have short' := Nat.le_trans (Nat.le_of_lt (branchLawful.length_lt taken)) short
      cases follows with
      | ok found =>
          obtain ⟨r', reads, _, _, halts'⟩ := found
          cases ih halts' clean' short' with
          | failure meets recorded => exact .failure (meets.after reads) recorded

theorem follows_alternation : FollowsLevel (limit + 1) (alternation lib body) := by
  intro r input ctx short fresh counted clean
  have short' : input.length ≤ limit := Nat.le_of_lt_succ short
  have ready : Ready r ctx input := ⟨counted, clean, fun item => by simp [afterItem, fresh] at item⟩
  refine (follows_sequence lib h lawful ready (by rw [fresh]) short').bind (fun _ => False.elim)
    fun rest p between replied found => ?_
  obtain ⟨r', reads, opened, earlier, made, halts⟩ := found
  obtain ⟨⟨taken, same, _⟩, kept⟩ := (sequence_lawful lib lawful).of_ok replied
  have shorter : rest.length ≤ limit := by
    rw [same, List.length_append] at short'
    omega
  have branchPattern : r'.current.toPattern = p := by
    simp [Branches.toPattern, earlier, fresh, made]
  have run := lib.many0_repeats (branch_lawful lib lawful) rest between
  have others := follows_branches lib h lawful run halts (kept.trans clean) shorter
  refine (others.prepend reads fun _ _ _ found => found).bind (fun _ (never : False) => never.elim)
    fun rest' parts after _ found => ?_
  obtain ⟨last, ends⟩ := found
  rw [branchPattern] at ends
  exact .ok ⟨last, reads.trans ends.reads, ends.opened.trans opened, ends.made, ends.halts, ends.noBar⟩

end Levels

/-- Groups can be in each other up to the depth. -/
theorem follows_pattern (depth : Nat) : FollowsLevel depth (pattern lib depth) := by
  induction depth with
  | zero => exact fun _ _ _ short => absurd short (Nat.not_lt_zero _)
  | succ depth ih => exact follows_alternation lib ih (pattern_lawful lib depth)

/-! ## Whole texts -/

theorem parse_of_blocked {text rest : List Char} {r : Reader} (reads : Reads {} text r rest)
    (blocked : r.Blocked rest) : Pattern.parse text = .error (r.stuck text rest) := by
  obtain ⟨steps, enough, same⟩ := @read_of_reads text _ _ _ _ _ reads (Nat.le_refl _)
  rw [Pattern.parse, same]
  cases rest with
  | nil =>
      have opened := blocked.unfinished rfl
      cases steps <;> simp [Reader.read, opened]
  | cons c rest =>
      obtain ⟨steps, rfl⟩ := Nat.exists_eq_add_one_of_ne_zero (Nat.ne_zero_of_lt enough)
      rw [Reader.read]
      · cases scanned : scan r.afterItem (c :: rest) with
        | none => rfl
        | some found => simp [blocked.refused _ _ scanned]
      · simp

theorem parse_of_meets {text : List Char} {e : PatternError} (meets : Meets {} text e) :
    Pattern.parse text = .error e := by
  obtain ⟨r, rest, token, next, reads, scanned, refused⟩ := meets
  obtain ⟨steps, enough, same⟩ := @read_of_reads text _ _ _ _ _ reads (Nat.le_refl _)
  rw [Pattern.parse, same]
  cases rest with
  | nil =>
      obtain ⟨lexeme, nonempty, empty⟩ := scan_lexeme scanned
      exact absurd (List.append_eq_nil_iff.mp empty.symm).1 nonempty
  | cons c rest =>
      obtain ⟨steps, rfl⟩ := Nat.exists_eq_add_one_of_ne_zero (Nat.ne_zero_of_lt enough)
      rw [Reader.read]
      · simp [scanned, refused]
      · simp

theorem parse_of_halts {text rest : List Char} {p : Pattern} {ctx : Context} {r : Reader}
    (ends : EndsLevel {} text rest p ctx r) (unfinished : rest ≠ []) :
    Pattern.parse text =
      .error (.unexpectedInput (byteLength text - byteLength rest) rest) := by
  obtain ⟨reads, opened, -, halts, noBar⟩ := ends
  have closed : r.opened = [] := opened
  cases halts with
  | pending _ ends =>
      have blocked : r.Blocked rest := by
        refine ⟨fun token next scanned => ?_, fun empty => absurd empty unfinished⟩
        obtain rfl | rfl := ends token next scanned
        · exact (noBar next (spelling_of_scan scanned)).elim
        · exact accept_eq_none_iff.mpr (.inr ⟨rfl, closed⟩)
      rw [parse_of_blocked reads blocked, stuck_eq, unread, closed]
      rfl
  | @unclosed _ _ r' inner group reads' blocked within start =>
      rw [parse_of_blocked (reads.trans reads') blocked, stuck_eq, unread, within, closed]
      simp [start]

/-- The descent and the reader make the same of every text, if groups can be in each other deep enough. -/
theorem answer_eq {text : List Char} {depth : Nat} (deep : text.length < depth) :
    answer text (pattern lib depth text {}) = (Pattern.parse text).mapError .cause := by
  have follows := follows_pattern lib depth {} text {} deep rfl rfl rfl
  rcases replied : pattern lib depth text {} with ⟨⟨rest, p⟩ | setback | setback, ctx⟩
  all_goals rw [replied] at follows
  · have clean : ctx.error = none := ((pattern_lawful lib depth).of_ok replied).2
    cases follows with
    | ok found =>
        obtain ⟨r, ends⟩ := found
        cases rest with
        | nil =>
            have parsed : Pattern.parse text = .ok p :=
              Pattern.parse_eq_ok_iff.mpr ⟨r, ends.reads, ends.opened, ends.made⟩
            simp [answer, clean, parsed, Except.mapError]
        | cons c rest =>
            have refused := parse_of_halts ends (by simp)
            simp [answer, clean, refused, Except.mapError]
  · cases follows with
    | error halted => exact halted.elim
  · cases follows with
    | failure meets recorded =>
        have refused := parse_of_meets meets
        simp [answer, recorded, refused, Except.mapError]

/--
The parsers make progress, and what they report has a cause. Every success of a quantified atom, of an item
of a class and of a branch behind a bar takes a character, at every depth, so that no repetition is refused
for want of progress; branches and alternations refuse no text. A parser gives up if and only if an error
is recorded, and the first one that is recorded stays and is the answer. In the end a text is a pattern, or
it goes on unexpectedly, or has bounds out of order or a lookbehind without a width: the answer is what
compiling the text gives.
-/
theorem descent_answers :
    ((classItem lib).Advances ∧
      ∀ input ctx setback ctx', lib.many1 (classItem lib) input ctx = (.error setback, ctx') ↔
        classItem lib input ctx = (.error setback, ctx')) ∧
    (∀ depth, let body := pattern lib depth
      ((quantified lib body).Advances ∧ (lib.many0 (quantified lib body)).Settled) ∧
      ((branch lib body).Advances ∧ (lib.many0 (branch lib body)).Settled) ∧
      ((sequence lib body).Settled ∧ (alternation lib body).Settled) ∧
      (quantified lib body).Accountable ∧ (sequence lib body).Accountable ∧
      (branch lib body).Accountable ∧ (alternation lib body).Accountable) ∧
    ∀ text : String,
      (∀ depth, text.toList.length < depth →
        let reply := pattern lib depth text.toList {}
        ((∃ setback, reply.1 = .failure setback) ↔
          ∃ e, reply.2.error = some e ∧ answer text.toList reply = .error (.cause e)) ∧
        answer text.toList reply = parse lib text.toList) ∧
      parse lib text.toList = (Pattern.compile text).mapError .cause ∧
      ∀ setback, parse lib text.toList ≠ .error (.malformed setback) := by
  have items := classItem_lawful lib
  refine ⟨⟨items.advances, fun _ _ _ _ => many1_refused_iff lib items⟩, fun depth => ?_, fun text => ?_⟩
  · have inside := pattern_lawful lib depth
    have atoms := quantified_lawful lib inside
    have branches := branch_lawful lib inside
    exact ⟨⟨atoms.advances, lib.many0_settled atoms⟩, ⟨branches.advances, lib.many0_settled branches⟩,
      ⟨sequence_settled lib inside, alternation_settled lib inside⟩, atoms.accountable,
      (sequence_lawful lib inside).accountable, branches.accountable,
      (alternation_lawful lib inside).accountable⟩
  · have same : parse lib text.toList = (Pattern.compile text).mapError .cause :=
      answer_eq lib (Nat.lt_succ_self _)
    refine ⟨fun depth deep => ⟨?_, (answer_eq lib deep).trans same.symm⟩, same,
      fun setback malformed => ?_⟩
    · rw [((pattern_lawful lib depth).accountable).gaveUp_iff _ _ rfl]
      exact exists_congr fun e => ⟨fun recorded => ⟨recorded, answer_of_recorded recorded⟩, And.left⟩
    · rw [same] at malformed
      cases compiled : Pattern.compile text <;> simp [compiled, Except.mapError] at malformed

/--
With the combinators written out: the lookbehind is the first of two errors in a group that is not closed,
and without them the group is where the text is refused.
-/
theorem descent_answers_unclosed :
    let lib := Combinators.standard
    (parse lib "(x(?<=a*)b\x7b2,1\x7d".toList = .error (.cause (.lookbehindWidth (.star (.literal 'a')))) ∧
      answer "(x(?<=a*)b\x7b2,1\x7d".toList (pattern lib 20 "(x(?<=a*)b\x7b2,1\x7d".toList {}) =
        parse lib "(x(?<=a*)b\x7b2,1\x7d".toList) ∧
      parse lib "a|(b[c".toList = .error (.cause (.unexpectedInput 2 "(b[c".toList)) := by
  intro lib
  obtain ⟨-, -, answers⟩ := descent_answers lib
  have first : Pattern.compile "(x(?<=a*)b\x7b2,1\x7d" =
      .error (.lookbehindWidth (.star (.literal 'a'))) := by rfl
  have unclosed : Pattern.compile "a|(b[c" = .error (.unexpectedInput 2 "(b[c".toList) := by rfl
  obtain ⟨atDepth, same, -⟩ := answers "(x(?<=a*)b\x7b2,1\x7d"
  refine ⟨⟨?_, (atDepth 20 (by decide)).2⟩, ?_⟩
  · rw [same, first]
    rfl
  · rw [(answers "a|(b[c").2.1, unclosed]
    rfl

end Descent
end Rematch
