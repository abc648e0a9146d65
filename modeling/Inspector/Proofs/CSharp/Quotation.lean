import Inspector.Proofs.CSharp.Layout

/-!
# What is quoted stays quoted

A string literal is read from its opening quote to its closing one, and with what
follows it left over (`readLiteral?_stringLiteral`). So a whole text can be cut at its
literals: into the code, in which every literal is left empty, and the values that the
literals had (`cutLiterals?`).

**The law** (`CompilationUnit.cutLiterals?_text`): in the text of a file whose names
hold no quote, the code is that of the hollow file, whose string literals are all
empty, and the values are the contents of its string literals in their order. So what
is quoted has no part in the code, whatever it is.

A piece of text is cut the same way whatever follows it (`Cuts`), and pieces are put
together in the way their text is.
-/

namespace Inspector.CSharp

open Text

/-! ## Reading and cutting -/

/-- Reads a string literal: its value, and what follows it. -/
def readLiteral? : List Char → Option (String × List Char)
  | '"' :: rest => (readContent? rest).map fun read => (String.ofList read.1, read.2)
  | _ => none

/-- A string literal is read back, whatever follows it. -/
theorem readLiteral?_stringLiteral (value : String) (rest : List Char) :
    readLiteral? (stringLiteral value ++ rest) = some (value, rest) := by
  rw [stringLiteral_append, readLiteral?, readContent?_flatMap, Option.map_some,
    String.ofList_toList]

/-- What is left over is shorter: the closing quote has been read. -/
theorem length_lt_of_readContent? {text content rest : List Char}
    (read : readContent? text = some (content, rest)) : rest.length < text.length := by
  fun_induction readContent? text generalizing content rest with
  | case1 => cases read
  | case2 =>
    cases read
    exact Nat.lt_succ_self _
  | case3 => cases read
  | case4 =>
    rename_i ih
    obtain ⟨_, _, read⟩ := Option.bind_eq_some_iff.mp read
    obtain ⟨⟨_, rest⟩, inner, same⟩ := Option.map_eq_some_iff.mp read
    cases same
    exact Nat.lt_succ_of_lt (Nat.lt_succ_of_lt (ih inner))
  | case5 =>
    rename_i ih
    obtain ⟨⟨_, rest⟩, inner, same⟩ := Option.map_eq_some_iff.mp read
    cases same
    exact Nat.lt_succ_of_lt (ih inner)

/-- Cuts a text at its string literals: the code, with the literals left empty, and the
values they had. -/
def cutLiterals? (text : List Char) : Option (List Char × List String) :=
  match text with
  | [] => some ([], [])
  | c :: rest =>
    if c = '"' then
      match _read : readContent? rest with
      | none => none
      | some (content, more) => (cutLiterals? more).map fun cut =>
          (stringLiteral "" ++ cut.1, String.ofList content :: cut.2)
    else (cutLiterals? rest).map fun cut => (c :: cut.1, cut.2)
termination_by text.length
decreasing_by
  · exact Nat.lt_succ_of_lt (length_lt_of_readContent? _read)
  · exact Nat.lt_succ_self _

theorem cutLiterals?_nil : cutLiterals? [] = some ([], []) := by
  rw [cutLiterals?]

theorem cutLiterals?_plain {c : Char} (other : c ≠ '"') (rest : List Char) :
    cutLiterals? (c :: rest) = (cutLiterals? rest).map fun cut => (c :: cut.1, cut.2) := by
  rw [cutLiterals?, if_neg other]

theorem cutLiterals?_stringLiteral (value : String) (rest : List Char) :
    cutLiterals? (stringLiteral value ++ rest) = (cutLiterals? rest).map fun cut =>
      (stringLiteral "" ++ cut.1, value :: cut.2) := by
  rw [stringLiteral_append, cutLiterals?, if_pos rfl]
  -- the scan jumps to where reading the content ends
  split
  next none =>
    rw [readContent?_flatMap] at none
    cases none
  next content more read =>
    rw [readContent?_flatMap] at read
    cases read
    rw [String.ofList_toList]

/-! ## Pieces -/

/-- A piece of text is cut into code and values, whatever follows it. -/
def Cuts (text code : List Char) (values : List String) : Prop :=
  ∀ rest, cutLiterals? (text ++ rest) =
    (cutLiterals? rest).map fun cut => (code ++ cut.1, values ++ cut.2)

namespace Cuts

variable {s t code code' : List Char} {values values' : List String}

theorem nil : Cuts [] [] [] :=
  fun _ => Option.map_id'.symm

theorem literal (value : String) : Cuts (stringLiteral value) (stringLiteral "") [value] :=
  cutLiterals?_stringLiteral value

theorem append (h : Cuts s code values) (h' : Cuts t code' values') :
    Cuts (s ++ t) (code ++ code') (values ++ values') := by
  intro rest
  rw [List.append_assoc, h, h', Option.map_map]
  simp only [Function.comp_def, List.append_assoc]

/-- Text without a quote is code. -/
theorem plain (free : '"' ∉ s) : Cuts s s [] := by
  induction s with
  | nil => exact nil
  | cons c s ih =>
    rw [List.mem_cons, not_or] at free
    intro rest
    rw [List.cons_append, cutLiterals?_plain (Ne.symm free.1), ih free.2, Option.map_map]
    rfl

theorem append_plain (h : Cuts s code values) (free : '"' ∉ t) :
    Cuts (s ++ t) (code ++ t) values := by
  have both := h.append (plain free)
  rwa [List.append_nil] at both

theorem plain_append (free : '"' ∉ t) (h : Cuts s code values) :
    Cuts (t ++ s) (t ++ code) values :=
  (plain free).append h

theorem flatMap {α : Type} {xs : List α} {f g : α → List Char} {v : α → List String}
    (h : ∀ x ∈ xs, Cuts (f x) (g x) (v x)) :
    Cuts (xs.flatMap f) (xs.flatMap g) (xs.flatMap v) := by
  induction xs with
  | nil => exact nil
  | cons x xs ih =>
    obtain ⟨first, others⟩ := List.forall_mem_cons.mp h
    simp only [List.flatMap_cons]
    exact first.append (ih others)

theorem cutLiterals?_eq (h : Cuts s code values) : cutLiterals? s = some (code, values) := by
  have whole := h []
  rw [cutLiterals?_nil, List.append_nil] at whole
  simpa using whole

end Cuts

/-! ## Expressions -/

namespace Expr

mutual

/-- An expression with all its string literals empty. -/
def hollow : Expr → Expr
  | str _ => str ""
  | int value => int value
  | float value => float value
  | ident name => ident name
  | typeOf type => typeOf type
  | member target name => member target.hollow name
  | call target method args => call target.hollow method (listHollow args)
  | create type args => create type (listHollow args)

/-- Expressions with all their string literals empty. -/
def listHollow : List Expr → List Expr
  | [] => []
  | e :: rest => e.hollow :: listHollow rest

end

theorem listHollow_eq (es : List Expr) : listHollow es = es.map hollow := by
  induction es with
  | nil => rfl
  | cons e rest ih => rw [listHollow, ih, List.map_cons]

/-- The text of an expression is cut into that of the hollow one and the contents of its
string literals. -/
def CutsHollow (e : Expr) : Prop :=
  Cuts e.text e.hollow.text (contents [e])

theorem contents_cons (e : Expr) (rest : List Expr) :
    contents (e :: rest) = contents [e] ++ contents rest := by
  rw [← contents_append, List.singleton_append]

theorem contents_member (target : Expr) (name : String) :
    contents [member target name] = contents [target] := by
  simp [contents, listParts, content?]

theorem contents_call (target : Expr) (method : String) (args : List Expr) :
    contents [call target method args] = contents [target] ++ contents args := by
  simp [contents, listParts, content?]

theorem contents_create (type : String) (args : List Expr) :
    contents [create type args] = contents args := by
  simp [contents, listParts, content?]

theorem cuts_argsText {es : List Expr} (h : ∀ e ∈ es, e.CutsHollow) :
    Cuts (argsText es) (argsText (es.map hollow)) (contents es) := by
  have more {rest : List Expr} (h : ∀ e ∈ rest, e.CutsHollow) :
      Cuts (moreArgsText rest) (moreArgsText (rest.map hollow)) (contents rest) := by
    induction rest with
    | nil => exact .nil
    | cons e rest ih =>
      obtain ⟨first, others⟩ := List.forall_mem_cons.mp h
      rw [contents_cons]
      exact (first.append (ih others)).plain_append (t := [',', ' ']) (by decide)
  cases es with
  | nil => exact .nil
  | cons e rest =>
    obtain ⟨first, others⟩ := List.forall_mem_cons.mp h
    rw [contents_cons, argsText_cons, List.map_cons, argsText_cons]
    exact first.append (more others)

mutual

/-- Only the string literals of an expression write quotes. -/
theorem cuts_text : (e : Expr) → Free '"' e.slots → e.CutsHollow
  | str value, _ => .literal value
  | int _, _ => .plain fun quote => absurd (sign_or_isNameChar_of_int quote) (by decide)
  | float _, _ => .plain fun quote => absurd (sign_or_isNameChar_of_float quote) (by decide)
  | ident _, free => .plain (free_cons.mp free).1
  | typeOf type, free => by
    have own := (free_cons.mp free).1
    refine .plain ?_
    rw [text_typeOf, List.mem_append, List.mem_append, not_or, not_or]
    exact ⟨⟨by decide, own⟩, by decide⟩
  | member target name, free => by
    obtain ⟨own, others⟩ := free_cons.mp free
    rw [CutsHollow, hollow, text_member, text_member, contents_member]
    exact (cuts_text target others).append_plain (by simpa using own)
  | call target method args, free => by
    obtain ⟨own, others⟩ := free_cons.mp free
    obtain ⟨ofTarget, ofArgs⟩ := free_append.mp others
    have method := (cuts_text target ofTarget).append_plain (t := '.' :: method.toList)
      (by simpa using own)
    have args := (cuts_argsText (cuts_list args ofArgs)).plain_append (t := ['(']) (by decide)
    rw [CutsHollow, hollow, listHollow_eq, text_call, text_call, contents_call]
    exact (method.append args).append_plain (by decide)
  | create type args, free => by
    obtain ⟨own, ofArgs⟩ := free_cons.mp free
    have args := (cuts_argsText (cuts_list args ofArgs)).plain_append (t := ['(']) (by decide)
    have opening : '"' ∉ "new ".toList ++ type.toList := by
      rw [List.mem_append, not_or]
      exact ⟨by decide, own⟩
    rw [CutsHollow, hollow, listHollow_eq, text_create, text_create, contents_create]
    exact (args.plain_append opening).append_plain (by decide)

theorem cuts_list : (es : List Expr) → Free '"' (listSlots es) → ∀ e ∈ es, e.CutsHollow
  | [], _ => fun _ mem => absurd mem List.not_mem_nil
  | e :: rest, free => by
    obtain ⟨first, others⟩ := free_append.mp free
    exact List.forall_mem_cons.mpr ⟨cuts_text e first, cuts_list rest others⟩

end

end Expr

/-! ## Lines -/

/-- The text of lines whose outermost level is a given one. -/
def Line.textAt (base : Nat) (lines : List Line) : List Char :=
  (lines.map (Line.visibleAt base)).flatMap (· ++ ['\n'])

/-- Lines are cut into lines of code and values, at whatever depth. -/
def CutLines (lines code : List Line) (values : List String) : Prop :=
  ∀ base, Cuts (Line.textAt base lines) (Line.textAt base code) values

namespace CutLines

variable {lines lines' code code' : List Line} {values values' : List String}

theorem nil : CutLines [] [] [] :=
  fun _ => .nil

theorem append (h : CutLines lines code values) (h' : CutLines lines' code' values') :
    CutLines (lines ++ lines') (code ++ code') (values ++ values') := by
  intro base
  simp only [Line.textAt, List.map_append, List.flatMap_append]
  exact (h base).append (h' base)

theorem flatMap {α : Type} {xs : List α} {f g : α → List Line} {v : α → List String}
    (h : ∀ x ∈ xs, CutLines (f x) (g x) (v x)) :
    CutLines (xs.flatMap f) (xs.flatMap g) (xs.flatMap v) := by
  induction xs with
  | nil => exact nil
  | cons x xs ih =>
    obtain ⟨first, others⟩ := List.forall_mem_cons.mp h
    simp only [List.flatMap_cons]
    exact first.append (ih others)

theorem empty : CutLines [.empty] [.empty] [] :=
  fun _ => .plain (s := ['\n']) (by decide)

theorem quote_not_mem_indent (depth : Nat) : '"' ∉ indent depth :=
  fun mem => absurd (List.eq_of_mem_replicate mem) (by decide)

theorem outer {text text' : List Char} (h : Cuts text text' values) :
    CutLines [.outer text] [.outer text'] values := by
  intro base
  have line := (h.plain_append (quote_not_mem_indent (base + 0))).append_plain (t := ['\n'])
    (by decide)
  have single (text : List Char) : Line.textAt base [.outer text] =
      indent (base + 0) ++ text ++ ['\n'] :=
    List.flatMap_singleton _ _
  rwa [single, single]

theorem map {α : Type} {xs : List α} {f g : α → List Char} {v : α → List String}
    (h : ∀ x ∈ xs, Cuts (f x) (g x) (v x)) :
    CutLines (xs.map fun x => .outer (f x)) (xs.map fun x => .outer (g x)) (xs.flatMap v) := by
  have single (f : α → List Char) : xs.map (fun x => Line.outer (f x)) =
      xs.flatMap fun x => [.outer (f x)] := by
    rw [← List.flatMap_singleton' (xs.map _), List.flatMap_map]
  rw [single, single]
  exact flatMap fun x mem => outer (h x mem)

/-- Lines without a quote are code. -/
theorem map_plain {α : Type} {xs : List α} {f : α → List Char} (free : ∀ x ∈ xs, '"' ∉ f x) :
    CutLines (xs.map fun x => .outer (f x)) (xs.map fun x => .outer (f x)) [] := by
  have lines := map (v := fun _ => []) fun x mem => Cuts.plain (free x mem)
  rwa [List.flatMap_eq_nil_iff.mpr fun _ _ => rfl] at lines

theorem block (h : CutLines lines code values) (h' : CutLines lines' code' values') :
    CutLines (Line.block lines lines') (Line.block code code') (values ++ values') := by
  intro base
  have brace {c : Char} (other : '"' ≠ c) : '"' ∉ indent base ++ [c] ++ ['\n'] := by
    simp [quote_not_mem_indent base, other]
  have parts (heading body : List Line) : Line.textAt base (Line.block heading body) =
      Line.textAt base heading ++ ((indent base ++ ['{'] ++ ['\n']) ++
        Line.textAt (base + 1) body ++ (indent base ++ ['}'] ++ ['\n'])) := by
    rw [Line.textAt, Line.map_visibleAt_block]
    simp [Line.textAt]
  rw [parts, parts]
  exact (h base).append
    (((h' (base + 1)).plain_append (brace (by decide))).append_plain (brace (by decide)))

theorem separated {α : Type} {xs : List α} {f g : α → List Line} {v : α → List String}
    (h : ∀ x ∈ xs, CutLines (f x) (g x) (v x)) :
    CutLines (Line.separated (xs.map f)) (Line.separated (xs.map g)) (xs.flatMap v) := by
  cases xs with
  | nil => exact nil
  | cons x xs =>
    obtain ⟨first, others⟩ := List.forall_mem_cons.mp h
    simp only [List.map_cons, Line.separated_cons, List.flatMap_cons, List.flatMap_map]
    exact first.append (flatMap fun x mem => empty.append (others x mem))

end CutLines

/-! ## Declarations -/

/-- The attribute with its string literals empty. -/
def Attribute.hollow (a : Attribute) : Attribute :=
  { a with args := a.args.map (·.hollow) }

/-- The field with its string literals empty. -/
def FieldDecl.hollow (f : FieldDecl) : FieldDecl :=
  { f with initial := f.initial.map (·.hollow) }

/-- The method with its string literals empty. -/
def MethodDecl.hollow (m : MethodDecl) : MethodDecl :=
  { m with body := m.body.map (·.hollow) }

/-- The member with its string literals empty. -/
def Member.hollow : Member → Member
  | field f => field f.hollow
  | method m => method m.hollow

/-- The class with its string literals empty. -/
def ClassDecl.hollow (c : ClassDecl) : ClassDecl :=
  { c with
    attributes := c.attributes.map (·.hollow)
    members := c.members.map (·.hollow) }

/-- The file with its string literals empty. -/
def CompilationUnit.hollow (u : CompilationUnit) : CompilationUnit :=
  { u with cls := u.cls.hollow }

theorem Attribute.cuts_text {a : Attribute} (free : Free '"' a.slots) :
    Cuts a.text a.hollow.text (Expr.contents a.args) := by
  obtain ⟨name, args⟩ := forall_slots.mp free
  have args := Expr.cuts_argsText fun e mem => Expr.cuts_text e (args e mem)
  have tail : Cuts a.tail a.hollow.tail (Expr.contents a.args) := by
    obtain ⟨name, _ | ⟨e, rest⟩⟩ := a
    · exact .plain (s := [']']) (by decide)
    · exact (args.plain_append (t := ['(']) (by decide)).append_plain (t := [')', ']'])
        (by decide)
  rw [text_eq, text_eq]
  exact tail.plain_append (t := '[' :: a.name.toList) (by simpa using name)

theorem not_heading_quote : isHeadingChar '"' = false := by decide

theorem FieldDecl.cuts_text {f : FieldDecl} (free : Free '"' f.slots) :
    Cuts f.text f.hollow.text (Expr.contents f.initial.toList) := by
  obtain ⟨type, name, initial⟩ := forall_slots.mp free
  have value : Cuts (initialText f.initial) (initialText f.hollow.initial)
      (Expr.contents f.initial.toList) := by
    rw [hollow]
    cases given : f.initial with
    | none => exact .nil
    | some e => exact (Expr.cuts_text e (initial e given)).plain_append (by decide)
  have ended := value.append_plain (t := [';']) (by decide)
  have named := ended.plain_append (t := ' ' :: f.name.toList) (by simpa using name)
  have typed := named.plain_append (t := ' ' :: f.type.toList) (by simpa using type)
  have line := typed.plain_append (f.access.not_mem_text (by decide))
  simp only [List.cons_append] at line
  rw [text_eq, text_eq]
  exact line

theorem Member.cuts_lines {m : Member} (free : Free '"' m.slots) :
    CutLines m.lines m.hollow.lines (Expr.contents m.exprs) := by
  cases m with
  | field f => exact .outer (FieldDecl.cuts_text free)
  | method m =>
    obtain ⟨_, _, statements⟩ := MethodDecl.forall_slots.mp free
    have signature : CutLines [.outer m.signature] [.outer m.signature] [] :=
      .outer (.plain (MethodDecl.not_mem_signature not_heading_quote free))
    have body : CutLines (m.body.map fun e => .outer (statementText e))
        (m.body.map fun e => .outer (statementText e.hollow))
        (m.body.flatMap fun e => Expr.contents [e]) :=
      .map fun e mem => (Expr.cuts_text e (statements e mem)).append_plain (by decide)
    have each : Expr.contents m.body = m.body.flatMap fun e => Expr.contents [e] := by
      rw [← Expr.contents_flatMap, List.flatMap_singleton']
    have lines := signature.block body
    rw [exprs, each, hollow, Member.lines, Member.lines, MethodDecl.hollow, List.map_map]
    exact lines

theorem ClassDecl.cuts_lines {c : ClassDecl} (free : Free '"' c.slots) :
    CutLines c.lines c.hollow.lines (Expr.contents c.exprs) := by
  obtain ⟨_, _, attributes, members⟩ := forall_slots.mp free
  have opening : CutLines c.opening c.hollow.opening
      (Expr.contents (c.attributes.flatMap (·.args))) := by
    have lines : CutLines (c.attributes.map fun a => .outer a.text)
        (c.attributes.map fun a => .outer a.hollow.text)
        (c.attributes.flatMap fun a => Expr.contents a.args) :=
      .map fun a mem => Attribute.cuts_text (attributes a mem)
    have heading : CutLines [.outer c.heading] [.outer c.heading] [] :=
      .outer (.plain (not_mem_heading not_heading_quote free))
    have both := lines.append heading
    rw [List.append_nil, ← Expr.contents_flatMap] at both
    rw [ClassDecl.opening, ClassDecl.opening, hollow, List.map_map]
    exact both
  have body : CutLines (Line.separated (c.members.map (·.lines)))
      (Line.separated (c.members.map fun m => m.hollow.lines))
      (c.members.flatMap fun m => Expr.contents m.exprs) :=
    .separated fun m mem => Member.cuts_lines (members m mem)
  have lines := opening.block body
  rw [← Expr.contents_flatMap, ← Expr.contents_append] at lines
  have others : c.hollow.members.map (·.lines) = c.members.map fun m => m.hollow.lines :=
    List.map_map
  rw [lines_eq, lines_eq, others, exprs]
  exact lines

/-! ## Files -/

namespace CompilationUnit

variable {u : CompilationUnit}

theorem cuts_preludeLines {imports : List String} (free : ∀ name ∈ imports, '"' ∉ name.toList) :
    CutLines (preludeLines imports) (preludeLines imports) [] := by
  have gap : CutLines (if imports.isEmpty then [] else [.empty])
      (if imports.isEmpty then [] else [.empty]) [] := by
    cases imports with
    | nil => exact .nil
    | cons => exact .empty
  have names : CutLines (importLines imports) (importLines imports) [] :=
    (CutLines.map_plain fun name mem =>
      not_mem_importText not_heading_quote (free name mem)).append gap
  rw [preludeLines_eq]
  exact (CutLines.map_plain fun _ mem => quote_not_mem_of_mem_banner mem).append
    (CutLines.empty.append names)

theorem cuts_lines (free : Free '"' u.slots) : CutLines u.lines u.hollow.lines u.contents := by
  obtain ⟨others, cls⟩ := free_append.mp free
  obtain ⟨outer, imports⟩ := free_append.mp others
  have prelude := cuts_preludeLines fun name mem =>
    imports (.qualified, name) (List.mem_map_of_mem mem)
  have cls := ClassDecl.cuts_lines cls
  have body : CutLines u.bodyLines u.hollow.bodyLines u.contents := by
    cases scope : u.scope with
    | none =>
      rw [bodyLines_of_none scope, bodyLines_of_none (u := u.hollow) scope]
      exact cls
    | some name =>
      have own := outer (.qualified, name) (by simp [scope])
      have opening : CutLines [.outer (scopeText name)] [.outer (scopeText name)] [] :=
        .outer (.plain (not_mem_scopeText not_heading_quote own))
      rw [bodyLines_of_some scope, bodyLines_of_some (u := u.hollow) scope]
      exact opening.block cls
  exact prelude.append body

/-- Cutting the text of a file at its string literals gives the text of the hollow file
and the contents of the literals. -/
theorem cutLiterals?_text (free : Free '"' u.slots) :
    cutLiterals? u.text.toList = some (u.hollow.text.toList, u.contents) := by
  have text (u : CompilationUnit) : u.text.toList = Line.textAt 0 u.lines := by
    rw [CompilationUnit.text, String.toList_ofList, Line.flatMap_chars_eq, Line.textAt,
      funext Line.visibleAt_zero]
  rw [text, text]
  exact (cuts_lines free 0).cutLiterals?_eq

end CompilationUnit

end Inspector.CSharp
