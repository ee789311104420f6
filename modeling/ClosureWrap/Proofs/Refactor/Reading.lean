import ClosureWrap.Proofs.Refactor.Closure

/-!
# Reading an expression back

The written form of an expression leaves almost nothing out, but it is not obvious that it can be
read in one way only. An opening parenthesis at the start of an expression belongs to a list of
parameters or to an arrow function that is called, and only what comes later tells. The body of an
arrow function goes on as far to the right as it can, so that a call after it belongs to the body.
And a single parameter may or may not stand in parentheses.

So here is a reader. It goes through the text once, one character at a time, and keeps what stands
to the left and still waits for the expression at hand. Reading is then a fold, and what has been
read of an expression does not depend on what comes after it. The reader is not told how parentheses
were used. It finds every expression with plain names from either of its written forms, and two
expressions that are written alike are therefore the same.

## Main definitions

* `Expr.Waiting`, `Expr.Place`, `Expr.Reader` — what waits for an expression, how far it has been
  read, and both together
* `Expr.Reader.step`, `Expr.read?` — reading one character, and reading a text

## Main results

* `Expr.Reader.foldl_chars` — what the reader has when it has gone through an expression
* `Expr.read?_render` — reading finds what was written
* `Expr.eq_of_render_eq` — expressions that are written alike are the same
-/

namespace ClosureWrap

namespace Text

theorem isIdentifierPart_of_isIdentifierStart {c : Char} (h : isIdentifierStart c = true) :
    isIdentifierPart c = true := by
  simp only [isIdentifierStart, Bool.or_eq_true] at h
  simp only [isIdentifierPart, Bool.or_eq_true]
  exact h.imp_left (Or.imp_left Or.inl)

/-- What separates names is no part of a name. -/
theorem isIdentifierPart_punctuation :
    ∀ c ∈ ['(', ')', ',', ' '], isIdentifierPart c = false := by
  -- One character at a time: each is compared with two long tables.
  simp only [List.forall_mem_cons]
  refine ⟨?_, ?_, ?_, ?_, fun c hc => by cases hc⟩
  · decide +kernel
  · decide +kernel
  · decide +kernel
  · decide +kernel

theorem notMem_punctuation {c : Char} (h : isIdentifierPart c = true) :
    c ∉ ['(', ')', ',', ' '] := by
  intro hc
  rw [isIdentifierPart_punctuation c hc] at h
  cases h

/-- A list that starts with an item goes on with a separator before every further one. -/
theorem intercalate_comma_cons (item : List Char) (items : List (List Char)) :
    comma.intercalate (item :: items) = item ++ items.flatMap (comma ++ ·) := by
  induction items generalizing item with
  | nil => simp
  | cons next items ih =>
    rw [List.intercalate_cons_cons, ih, List.flatMap_cons, List.append_assoc, List.append_assoc]

end Text

namespace Expr

/-! ### The reader -/

/-- What stands to the left of an expression and waits for it. -/
inductive Waiting where
  /-- An arrow function waits for its body. -/
  | body (parameters : List String)
  /-- A call waits for an argument, after those that stand before it. -/
  | argument (callee : Expr) (before : List Expr)
  /-- A parenthesis has been opened around an arrow function that will be called. -/
  | callee

/-- How far the reader has come with the expression at hand. -/
inductive Place where
  /-- Nothing of it has been read. -/
  | start
  /-- A parenthesis has been read: of a list of parameters, or around an arrow function. -/
  | opened
  /-- A parameter is expected after those in `before`. -/
  | nextParameter (before : List String)
  /-- A part of a name has been read that may be a parameter after those in `before`. -/
  | parameter (before : List String) (name : String)
  /-- An expression has been read, and it may go on. -/
  | after (e : Expr)
  /-- A parenthesis has been read after an expression. -/
  | arguments (callee : Expr)
  /-- Some characters are the only ones that can follow. -/
  | owed (rest : List Char) (next : Place)
  /-- The text is not the written form of an expression. -/
  | stuck

/-- A reader on its way through a text. -/
structure Reader where
  /-- How far it has come with the expression at hand. -/
  place : Place
  /-- What waits for that expression, innermost first. -/
  waiting : List Waiting

/-- The expression that ends where `e` does, as far out as arrow functions wait for it, and what
waits for that. -/
def enclose (e : Expr) : List Waiting → Expr × List Waiting
  | .body parameters :: waiting => enclose (.arrow parameters e) waiting
  | waiting => (e, waiting)

namespace Reader

/-- What lies between the parameters of an arrow function and its body. -/
def arrowMark : List Char := [' ', '=', '>', ' ']

/-- Reads the first character of an expression. -/
def enter (waiting : List Waiting) (c : Char) : Reader :=
  if c = '(' then ⟨.opened, waiting⟩
  else if Text.isIdentifierStart c then ⟨.after (.identifier (.singleton c)), waiting⟩
  else ⟨.stuck, waiting⟩

/-- Reads the comma after an argument. -/
def separate : Expr × List Waiting → Reader
  | (e, .argument callee before :: waiting) =>
    ⟨.owed [' '] .start, .argument callee (before ++ [e]) :: waiting⟩
  | (_, waiting) => ⟨.stuck, waiting⟩

/-- Reads the parenthesis after the last argument, or after an arrow function that will be
called. -/
def close : Expr × List Waiting → Reader
  | (e, .argument callee before :: waiting) => ⟨.after (.call callee (before ++ [e])), waiting⟩
  | (e, .callee :: waiting) => ⟨.owed ['('] (.arguments e), waiting⟩
  | (_, waiting) => ⟨.stuck, waiting⟩

/-- Reads a character that makes a name longer, or shows that the name was a parameter. -/
def extend (waiting : List Waiting) (c : Char) : Expr → Reader
  | .identifier name =>
    if Text.isIdentifierPart c then ⟨.after (.identifier (name.push c)), waiting⟩
    else if c = ' ' then ⟨.owed arrowMark.tail .start, .body [name] :: waiting⟩
    else ⟨.stuck, waiting⟩
  | _ => ⟨.stuck, waiting⟩

/-- Reads one character. -/
def step (r : Reader) (c : Char) : Reader :=
  match r.place with
  | .start => enter r.waiting c
  | .opened =>
    if c = ')' then ⟨.owed arrowMark .start, .body [] :: r.waiting⟩
    else if c = '(' then ⟨.opened, .callee :: r.waiting⟩
    else if Text.isIdentifierStart c then ⟨.parameter [] (.singleton c), r.waiting⟩
    else ⟨.stuck, r.waiting⟩
  | .nextParameter before =>
    if Text.isIdentifierStart c then ⟨.parameter before (.singleton c), r.waiting⟩
    else ⟨.stuck, r.waiting⟩
  | .parameter before name =>
    if Text.isIdentifierPart c then ⟨.parameter before (name.push c), r.waiting⟩
    else if c = ',' then ⟨.owed [' '] (.nextParameter (before ++ [name])), r.waiting⟩
    else if c = ')' then ⟨.owed arrowMark .start, .body (before ++ [name]) :: r.waiting⟩
    else if c = ' ' ∧ before = [] then
      ⟨.owed arrowMark.tail .start, .body [name] :: .callee :: r.waiting⟩
    else ⟨.stuck, r.waiting⟩
  | .after e =>
    if c = '(' then ⟨.arguments e, r.waiting⟩
    else if c = ',' then separate (e.enclose r.waiting)
    else if c = ')' then close (e.enclose r.waiting)
    else extend r.waiting c e
  | .arguments callee =>
    if c = ')' then ⟨.after (.call callee []), r.waiting⟩
    else enter (.argument callee [] :: r.waiting) c
  | .owed [] _ => ⟨.stuck, r.waiting⟩
  | .owed (o :: rest) next =>
    if c ≠ o then ⟨.stuck, r.waiting⟩
    else if rest = [] then ⟨next, r.waiting⟩
    else ⟨.owed rest next, r.waiting⟩
  | .stuck => r

end Reader

/-- The expression with the given written form, whichever way parentheses are used in it. -/
def read? (text : String) : Option Expr :=
  match text.toList.foldl Reader.step ⟨.start, []⟩ with
  | ⟨.after e, waiting⟩ =>
    match e.enclose waiting with
    | (whole, []) => some whole
    | _ => none
  | _ => none

namespace Reader

variable {waiting : List Waiting} {mode : ArrowParens}

/-! ### Names and fixed parts -/

theorem foldl_owed {o : Char} {rest : List Char} {next : Place} :
    (o :: rest).foldl step ⟨.owed (o :: rest) next, waiting⟩ = ⟨next, waiting⟩ := by
  induction rest generalizing o with
  | nil => simp [step]
  | cons o' rest ih =>
    have hstep : step ⟨.owed (o :: o' :: rest) next, waiting⟩ o =
        ⟨.owed (o' :: rest) next, waiting⟩ := by simp [step]
    rw [List.foldl_cons, hstep, ih]

/-- A plain name is read as a whole, wherever its characters are collected. -/
theorem foldl_plain {place : Place} (collected : String → Place) {name : String}
    (hplain : Text.isPlainIdentifier name.toList = true)
    (hfirst : ∀ c, Text.isIdentifierStart c = true →
      step ⟨place, waiting⟩ c = ⟨collected (.singleton c), waiting⟩)
    (hnext : ∀ s c, Text.isIdentifierPart c = true →
      step ⟨collected s, waiting⟩ c = ⟨collected (s.push c), waiting⟩) :
    name.toList.foldl step ⟨place, waiting⟩ = ⟨collected name, waiting⟩ := by
  have hrest : ∀ (cs : List Char) (s : String), cs.all Text.isIdentifierPart = true →
      cs.foldl step ⟨collected s, waiting⟩ = ⟨collected (s ++ String.ofList cs), waiting⟩ := by
    intro cs
    induction cs with
    | nil => simp
    | cons c cs ih =>
      intro s hcs
      rw [List.all_cons, Bool.and_eq_true] at hcs
      rw [List.foldl_cons, hnext s c hcs.1, ih (s.push c) hcs.2, String.ofList_cons,
        ← String.append_assoc, String.append_singleton]
  cases hname : name.toList with
  | nil =>
    rw [hname] at hplain
    cases hplain
  | cons c cs =>
    rw [hname, Text.isPlainIdentifier, Bool.and_eq_true] at hplain
    rw [List.foldl_cons, hfirst c hplain.1, hrest cs _ hplain.2, ← String.ofList_cons, ← hname,
      String.ofList_toList]

theorem step_after_part {s : String} {c : Char} (h : Text.isIdentifierPart c = true) :
    step ⟨.after (.identifier s), waiting⟩ c = ⟨.after (.identifier (s.push c)), waiting⟩ := by
  have hc := Text.notMem_punctuation h
  simp only [List.mem_cons, not_or] at hc
  simp [step, extend, h, hc]

theorem enter_start {c : Char} (h : Text.isIdentifierStart c = true) :
    enter waiting c = ⟨.after (.identifier (.singleton c)), waiting⟩ := by
  have hc := Text.notMem_punctuation (Text.isIdentifierPart_of_isIdentifierStart h)
  simp only [List.mem_cons, not_or] at hc
  simp [enter, h, hc]

theorem step_opened_start {c : Char} (h : Text.isIdentifierStart c = true) :
    step ⟨.opened, waiting⟩ c = ⟨.parameter [] (.singleton c), waiting⟩ := by
  have hc := Text.notMem_punctuation (Text.isIdentifierPart_of_isIdentifierStart h)
  simp only [List.mem_cons, not_or] at hc
  simp [step, h, hc]

theorem step_parameter_part {before : List String} {s : String} {c : Char}
    (h : Text.isIdentifierPart c = true) :
    step ⟨.parameter before s, waiting⟩ c = ⟨.parameter before (s.push c), waiting⟩ := by
  simp [step, h]

/-! ### Parameters -/

theorem foldl_name {name : String} (hplain : Text.isPlainIdentifier name.toList = true) :
    name.toList.foldl step ⟨.start, waiting⟩ = ⟨.after (.identifier name), waiting⟩ :=
  foldl_plain (fun s => .after (.identifier s)) hplain (fun _ => enter_start)
    fun _ _ => step_after_part

theorem foldl_name_opened {name : String} (hplain : Text.isPlainIdentifier name.toList = true) :
    name.toList.foldl step ⟨.opened, waiting⟩ = ⟨.parameter [] name, waiting⟩ :=
  foldl_plain (.parameter []) hplain (fun _ => step_opened_start) fun _ _ => step_parameter_part

/-- The further parameters of a list, after one that has just been read. -/
theorem foldl_parameters {names : List String}
    (hplain : ∀ name ∈ names, Text.isPlainIdentifier name.toList = true) (before : List String)
    (name : String) :
    ((names.map String.toList).flatMap (Text.comma ++ ·) ++ [')']).foldl step
        ⟨.parameter before name, waiting⟩ =
      ⟨.owed arrowMark .start, .body (before ++ name :: names) :: waiting⟩ := by
  induction names generalizing before name with
  | nil => simp [step, Text.isIdentifierPart_punctuation]
  | cons next names ih =>
    have hseparated : Text.comma.foldl step ⟨.parameter before name, waiting⟩ =
        ⟨.nextParameter (before ++ [name]), waiting⟩ := by
      simp [Text.comma, step, Text.isIdentifierPart_punctuation]
    have hnext : next.toList.foldl step ⟨.nextParameter (before ++ [name]), waiting⟩ =
        ⟨.parameter (before ++ [name]) next, waiting⟩ :=
      foldl_plain (.parameter (before ++ [name])) (hplain next List.mem_cons_self)
        (fun c hc => by simp [step, hc]) fun _ _ => step_parameter_part
    rw [List.map_cons, List.flatMap_cons, List.append_assoc, List.append_assoc, List.foldl_append,
      hseparated, List.foldl_append, hnext,
      ih fun other hother => hplain other (List.mem_cons_of_mem _ hother), List.append_assoc,
      List.singleton_append]

/-- The parameters after a parenthesis, with the arrow, leave the body to be read. -/
theorem foldl_parenthesized {names : List String}
    (hplain : ∀ name ∈ names, Text.isPlainIdentifier name.toList = true) :
    (Text.comma.intercalate (names.map String.toList) ++ [')'] ++ arrowMark).foldl step
        ⟨.opened, waiting⟩ = ⟨.start, .body names :: waiting⟩ := by
  have hlist : (Text.comma.intercalate (names.map String.toList) ++ [')']).foldl step
      ⟨.opened, waiting⟩ = ⟨.owed arrowMark .start, .body names :: waiting⟩ := by
    cases names with
    | nil => simp [step]
    | cons name names =>
      rw [List.map_cons, Text.intercalate_comma_cons, List.append_assoc, List.foldl_append,
        foldl_name_opened (hplain name List.mem_cons_self),
        foldl_parameters fun other hother => hplain other (List.mem_cons_of_mem _ hother)]
      rfl
  rw [List.foldl_append, hlist]
  exact foldl_owed

/-- The parameters stand in parentheses, or there is only one. -/
theorem headChars_cases (mode : ArrowParens) (names : List String) :
    headChars mode names = Text.parenthesized (names.map String.toList) ∨
      ∃ only, names = [only] ∧ headChars mode names = only.toList := by
  unfold headChars
  split
  · rename_i only
    split
    · exact .inr ⟨only, rfl, rfl⟩
    · exact .inl rfl
  · exact .inl rfl

/-- The parameters of an arrow function, with the arrow, leave its body to be read. -/
theorem foldl_head {names : List String}
    (hplain : ∀ name ∈ names, Text.isPlainIdentifier name.toList = true) :
    (headChars mode names ++ arrowMark).foldl step ⟨.start, waiting⟩ =
      ⟨.start, .body names :: waiting⟩ := by
  rcases headChars_cases mode names with hhead | ⟨only, rfl, hhead⟩
  · rw [hhead, Text.parenthesized, List.cons_append, List.foldl_cons]
    exact foldl_parenthesized hplain
  · have hblank : step ⟨.after (.identifier only), waiting⟩ ' ' =
        ⟨.owed arrowMark.tail .start, .body [only] :: waiting⟩ := by
      simp [step, extend, Text.isIdentifierPart_punctuation]
    rw [hhead, List.foldl_append, foldl_name (hplain only List.mem_cons_self), arrowMark,
      List.foldl_cons, hblank]
    exact foldl_owed

/-- The same after a parenthesis, which is then found to stand around the arrow function. -/
theorem foldl_head_opened {names : List String}
    (hplain : ∀ name ∈ names, Text.isPlainIdentifier name.toList = true) :
    (headChars mode names ++ arrowMark).foldl step ⟨.opened, waiting⟩ =
      ⟨.start, .body names :: .callee :: waiting⟩ := by
  rcases headChars_cases mode names with hhead | ⟨only, rfl, hhead⟩
  · rw [hhead, Text.parenthesized, List.cons_append, List.foldl_cons]
    exact foldl_parenthesized hplain
  · have hblank : step ⟨.parameter [] only, waiting⟩ ' ' =
        ⟨.owed arrowMark.tail .start, .body [only] :: .callee :: waiting⟩ := by
      simp [step, Text.isIdentifierPart_punctuation]
    rw [hhead, List.foldl_append, foldl_name_opened (hplain only List.mem_cons_self), arrowMark,
      List.foldl_cons, hblank]
    exact foldl_owed

/-! ### Expressions -/

/-- The reader at the end of an expression. The arrow functions in which the expression ends still
wait, since their bodies may go on. -/
def settled : Expr → List Waiting → Reader
  | .arrow parameters body, waiting => settled body (.body parameters :: waiting)
  | e, waiting => ⟨.after e, waiting⟩

theorem settled_of_not_isArrow {e : Expr} (h : e.isArrow = false) :
    settled e waiting = ⟨.after e, waiting⟩ := by
  cases e with
  | identifier => rfl
  | call => rfl
  | arrow => cases h

/-- What ends at the end of an expression is the expression. -/
theorem exists_settled (e : Expr) (waiting : List Waiting) :
    ∃ inner left, settled e waiting = ⟨.after inner, left⟩ ∧
      inner.enclose left = e.enclose waiting := by
  fun_induction settled e waiting with
  | case1 waiting parameters body ih =>
    obtain ⟨inner, left, hsettled, henclose⟩ := ih
    exact ⟨inner, left, hsettled, henclose⟩
  | case2 e waiting hother => exact ⟨e, waiting, rfl, rfl⟩

/-- A character that ends an expression is read with all that ends there. -/
theorem step_settled {c : Char} (ends : Expr × List Waiting → Reader)
    (hstep : ∀ inner left, step ⟨.after inner, left⟩ c = ends (inner.enclose left)) (e : Expr)
    (waiting : List Waiting) : step (settled e waiting) c = ends (e.enclose waiting) := by
  obtain ⟨inner, left, hsettled, henclose⟩ := exists_settled e waiting
  rw [hsettled, hstep, henclose]

theorem step_settled_comma {e callee : Expr} {before : List Expr} :
    step (settled e (.argument callee before :: waiting)) ',' =
      ⟨.owed [' '] .start, .argument callee (before ++ [e]) :: waiting⟩ :=
  step_settled separate (fun _ _ => rfl) e _

theorem step_settled_close {e callee : Expr} {before : List Expr} :
    step (settled e (.argument callee before :: waiting)) ')' =
      ⟨.after (.call callee (before ++ [e])), waiting⟩ :=
  step_settled close (fun _ _ => rfl) e _

theorem step_settled_close_callee {e : Expr} :
    step (settled e (.callee :: waiting)) ')' = ⟨.owed ['('] (.arguments e), waiting⟩ :=
  step_settled close (fun _ _ => rfl) e _

/-- The written form of the expression is read as that expression, whatever waits for it. -/
def Reads (mode : ArrowParens) (e : Expr) : Prop :=
  ∀ waiting, (e.chars mode).foldl step ⟨.start, waiting⟩ = settled e waiting

theorem foldl_stuck (cs : List Char) : cs.foldl step ⟨.stuck, waiting⟩ = ⟨.stuck, waiting⟩ := by
  induction cs with
  | nil => rfl
  | cons c cs ih => exact ih

theorem enter_close : enter waiting ')' = ⟨.stuck, waiting⟩ := by
  have hstart : Text.isIdentifierStart ')' = false := by decide +kernel
  simp [enter, hstart]

/-- An expression is not empty, and it does not start with a closing parenthesis. -/
theorem Reads.exists_first {e : Expr} (h : Reads mode e) :
    ∃ c cs, e.chars mode = c :: cs ∧ c ≠ ')' := by
  obtain ⟨inner, left, hsettled, -⟩ := exists_settled e []
  have hread := h []
  rw [hsettled] at hread
  cases hchars : e.chars mode with
  | nil =>
    rw [hchars] at hread
    cases hread
  | cons c cs =>
    refine ⟨c, cs, rfl, ?_⟩
    rintro rfl
    have hstuck : (')' :: cs).foldl step ⟨.start, []⟩ = ⟨.stuck, []⟩ := by
      rw [List.foldl_cons, show step ⟨.start, []⟩ ')' = _ from enter_close, foldl_stuck]
    rw [hchars, hstuck] at hread
    cases hread

/-- The further arguments of a call, after one that has just been read. -/
theorem foldl_further {es : List Expr} (hreads : ∀ e ∈ es, Reads mode e) (callee : Expr)
    (before : List Expr) (e : Expr) :
    ((es.map (chars mode)).flatMap (Text.comma ++ ·) ++ [')']).foldl step
        (settled e (.argument callee before :: waiting)) =
      ⟨.after (.call callee (before ++ e :: es)), waiting⟩ := by
  induction es generalizing before e with
  | nil => exact step_settled_close
  | cons next es ih =>
    have hseparated : Text.comma.foldl step (settled e (.argument callee before :: waiting)) =
        ⟨.start, .argument callee (before ++ [e]) :: waiting⟩ := by
      rw [Text.comma, List.foldl_cons, step_settled_comma]
      exact foldl_owed
    rw [List.map_cons, List.flatMap_cons, List.append_assoc, List.append_assoc, List.foldl_append,
      hseparated, List.foldl_append, hreads next List.mem_cons_self,
      ih fun other hother => hreads other (List.mem_cons_of_mem _ hother), List.append_assoc,
      List.singleton_append]

theorem charsAll_eq_map (mode : ArrowParens) (es : List Expr) :
    charsAll mode es = es.map (chars mode) := by
  induction es with
  | nil => rfl
  | cons e es ih => rw [charsAll, ih, List.map_cons]

/-- The arguments of a call, after the parenthesis before them. -/
theorem foldl_arguments {es : List Expr} (hreads : ∀ e ∈ es, Reads mode e) (callee : Expr) :
    (Text.comma.intercalate (charsAll mode es) ++ [')']).foldl step ⟨.arguments callee, waiting⟩ =
      ⟨.after (.call callee es), waiting⟩ := by
  rw [charsAll_eq_map]
  cases es with
  | nil => rfl
  | cons e es =>
    have he : Reads mode e := hreads e List.mem_cons_self
    have hfirst : (e.chars mode).foldl step ⟨.arguments callee, waiting⟩ =
        settled e (.argument callee [] :: waiting) := by
      obtain ⟨c, cs, hchars, hc⟩ := he.exists_first
      rw [← he, hchars, List.foldl_cons, List.foldl_cons]
      congr 1
      simp [step, hc]
    rw [List.map_cons, Text.intercalate_comma_cons, List.append_assoc, List.foldl_append, hfirst,
      foldl_further fun other hother => hreads other (List.mem_cons_of_mem _ hother)]
    rfl

/-! One lemma for each form of an expression. -/

theorem chars_arrow (mode : ArrowParens) (parameters : List String) (body : Expr) :
    (Expr.arrow parameters body).chars mode =
      headChars mode parameters ++ arrowMark ++ body.chars mode := by
  rw [chars, arrowMark]

theorem reads_arrow {parameters : List String} {body : Expr}
    (hplain : ∀ name ∈ parameters, Text.isPlainIdentifier name.toList = true)
    (hbody : Reads mode body) : Reads mode (.arrow parameters body) := by
  intro waiting
  rw [chars_arrow, List.foldl_append, foldl_head hplain, hbody, settled]

/-- After a parenthesis, an arrow function is read as one that will be called. -/
theorem foldl_opened {parameters : List String} {body : Expr}
    (hplain : ∀ name ∈ parameters, Text.isPlainIdentifier name.toList = true)
    (hbody : Reads mode body) :
    ((Expr.arrow parameters body).chars mode).foldl step ⟨.opened, waiting⟩ =
      settled (.arrow parameters body) (.callee :: waiting) := by
  rw [chars_arrow, List.foldl_append, foldl_head_opened hplain, hbody, settled]

/-- A call is read once what it calls has been read up to the parenthesis before the arguments. -/
theorem reads_call {callee : Expr} {arguments : List Expr}
    (hcallee : ∀ waiting, ((if callee.isArrow then '(' :: (callee.chars mode ++ [')'])
        else callee.chars mode) ++ ['(']).foldl step ⟨.start, waiting⟩ =
      ⟨.arguments callee, waiting⟩)
    (harguments : ∀ e ∈ arguments, Reads mode e) : Reads mode (.call callee arguments) := by
  intro waiting
  rw [chars, Text.parenthesized, List.append_cons, List.foldl_append, hcallee,
    foldl_arguments harguments, settled_of_not_isArrow rfl]

theorem foldl_callee {callee : Expr} (harrow : callee.isArrow = false)
    (hcallee : Reads mode callee) :
    (callee.chars mode ++ ['(']).foldl step ⟨.start, waiting⟩ = ⟨.arguments callee, waiting⟩ := by
  rw [List.foldl_append, hcallee, settled_of_not_isArrow harrow]
  rfl

theorem foldl_callee_arrow {parameters : List String} {body : Expr}
    (hplain : ∀ name ∈ parameters, Text.isPlainIdentifier name.toList = true)
    (hbody : Reads mode body) :
    ('(' :: ((Expr.arrow parameters body).chars mode ++ [')']) ++ ['(']).foldl step
        ⟨.start, waiting⟩ = ⟨.arguments (.arrow parameters body), waiting⟩ := by
  rw [List.cons_append, List.foldl_cons,
    show step ⟨.start, waiting⟩ '(' = ⟨.opened, waiting⟩ from rfl,
    List.foldl_append, List.foldl_append, foldl_opened hplain hbody,
    show List.foldl step (settled _ _) [')'] = _ from step_settled_close_callee]
  exact foldl_owed

mutual

/-- **The reader goes through the written form of an expression** and has that expression in the
end, whatever waits for it. -/
theorem foldl_chars (mode : ArrowParens) : ∀ e : Expr, e.isPlain = true → Reads mode e
  | .identifier name, h => fun waiting => by
    rw [isPlain] at h
    rw [chars, foldl_name h, settled_of_not_isArrow rfl]
  | .call callee arguments, h => by
    rw [isPlain, Bool.and_eq_true] at h
    refine reads_call (fun waiting => ?_) (foldl_charsAll mode arguments h.2)
    cases callee with
    | identifier name => exact foldl_callee rfl (foldl_chars mode _ h.1)
    | call inner before => exact foldl_callee rfl (foldl_chars mode _ h.1)
    | arrow parameters body =>
      have hparts := h.1
      rw [isPlain, Bool.and_eq_true, List.all_eq_true] at hparts
      exact foldl_callee_arrow hparts.1 (foldl_chars mode body hparts.2)
  | .arrow parameters body, h => by
    rw [isPlain, Bool.and_eq_true, List.all_eq_true] at h
    exact reads_arrow h.1 (foldl_chars mode body h.2)

theorem foldl_charsAll (mode : ArrowParens) :
    ∀ es : List Expr, isPlainAll es = true → ∀ e ∈ es, Reads mode e
  | [], _ => fun e he => (by cases he)
  | e :: es, h => by
    rw [isPlainAll, Bool.and_eq_true] at h
    exact List.forall_mem_cons.2 ⟨foldl_chars mode e h.1, foldl_charsAll mode es h.2⟩

end

end Reader

/-- **Reading finds what was written**, whichever way parentheses were used. -/
theorem read?_render {e : Expr} (h : e.isPlain = true) (mode : ArrowParens) :
    read? (e.render mode) = some e := by
  obtain ⟨inner, left, hsettled, henclose⟩ := Reader.exists_settled e []
  have hread : (e.render mode).toList.foldl Reader.step ⟨.start, []⟩ = ⟨.after inner, left⟩ := by
    rw [render, String.toList_ofList, Reader.foldl_chars mode e h, hsettled]
  have hwhole : inner.enclose left = (e, []) := henclose
  simp only [read?, hread, hwhole]

example : (read? "(a => b(a))(() => c)(d)").map (render .always) =
    some "((a) => b(a))(() => c)(d)" := by
  decide +kernel

/-- **Printing is unambiguous.** Two expressions with plain names that are written alike are the
same, even if parentheses were used in different ways. -/
theorem eq_of_render_eq {mode₁ mode₂ : ArrowParens} {e₁ e₂ : Expr} (h₁ : e₁.isPlain = true)
    (h₂ : e₂.isPlain = true) (h : e₁.render mode₁ = e₂.render mode₂) : e₁ = e₂ := by
  have hread := read?_render h₁ mode₁
  rw [h, read?_render h₂ mode₂] at hread
  exact (Option.some.inj hread).symm

/-- A forwarding closure that is called, written in both ways. -/
theorem eq_of_render_eq_forward :
    (Expr.call (forward "f" ["a", "b"]) [.arrow [] (.identifier "x")]).render .asNeeded =
        "((a, b) => f(a, b))(() => x)" ∧
      (Expr.call (.arrow ["a", "b"] (.call (.identifier "f") [.identifier "a", .identifier "b"]))
        [.arrow [] (.identifier "x")]).render .always = "((a, b) => f(a, b))(() => x)" ∧
      Expr.call (forward "f" ["a", "b"]) [.arrow [] (.identifier "x")] =
        .call (.arrow ["a", "b"] (.call (.identifier "f") [.identifier "a", .identifier "b"]))
          [.arrow [] (.identifier "x")] := by
  have h₁ : (Expr.call (forward "f" ["a", "b"]) [.arrow [] (.identifier "x")]).render .asNeeded =
      "((a, b) => f(a, b))(() => x)" := by
    decide +kernel
  have h₂ : (Expr.call (.arrow ["a", "b"]
      (.call (.identifier "f") [.identifier "a", .identifier "b"]))
        [.arrow [] (.identifier "x")]).render .always = "((a, b) => f(a, b))(() => x)" := by
    decide +kernel
  exact ⟨h₁, h₂, eq_of_render_eq (by decide +kernel) (by decide +kernel) (h₁.trans h₂.symm)⟩

end Expr

end ClosureWrap
