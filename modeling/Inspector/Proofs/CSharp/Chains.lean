import Inspector.CSharp.Render
import Inspector.Proofs.CSharp.WellNamed

/-!
# Expressions as chains

An expression is written from its innermost target outwards: a head, and behind
it links, each a member access or a call. The grammar is left-recursive and the
text is not, so an expression is taken apart as a chain: its head and its links
in order (`exists_chain`). Its text is the text of the head followed by those of
the links (`text_chain`), and its names are theirs (`wellNamed_chain`).
-/

namespace Inspector.CSharp

open Number

/-! ## The text of an expression -/

namespace Expr

theorem text_float (value : Single) : (float value).text = floatLiteral value := rfl

theorem text_typeOf (type : String) :
    (typeOf type).text = "typeof(".toList ++ type.toList ++ [')'] := rfl

theorem text_member (target : Expr) (name : String) :
    (member target name).text = target.text ++ '.' :: name.toList := rfl

theorem text_call (target : Expr) (method : String) (args : List Expr) :
    (call target method args).text =
      target.text ++ '.' :: method.toList ++ '(' :: argsText args ++ [')'] := rfl

theorem text_create (type : String) (args : List Expr) :
    (create type args).text = "new ".toList ++ type.toList ++ '(' :: argsText args ++ [')'] := rfl

end Expr

/-! ## Chains -/

/-- What is written behind a target. -/
inductive Link where
  | member (name : String)
  | call (method : String) (args : List Expr)

namespace Link

/-- The expression of a target with a link behind it. -/
def attach (target : Expr) : Link → Expr
  | member name => .member target name
  | call method args => .call target method args

/-- The text of a link. -/
def text : Link → List Char
  | member name => '.' :: name.toList
  | call method args => '.' :: method.toList ++ '(' :: Expr.argsText args ++ [')']

/-- The names of a link. -/
def slots : Link → List Slot
  | member name => [(.simple, name)]
  | call method args => (.simple, method) :: Expr.listSlots args

/-- The arguments of a link. -/
def args : Link → List Expr
  | member _ => []
  | call _ args => args

end Link

namespace Expr

/-- An expression without a target. -/
def isHead : Expr → Bool
  | .member .. => false
  | .call .. => false
  | _ => true

/-- A head with links behind it. -/
def chain (head : Expr) (links : List Link) : Expr :=
  links.foldl Link.attach head

theorem chain_cons (head : Expr) (link : Link) (links : List Link) :
    head.chain (link :: links) = (link.attach head).chain links := rfl

theorem text_chain (head : Expr) (links : List Link) :
    (head.chain links).text = head.text ++ links.flatMap Link.text := by
  induction links generalizing head with
  | nil => simp [chain]
  | cons link links ih =>
    have attached : (link.attach head).text = head.text ++ link.text := by
      cases link with
      | member name => rw [Link.attach, Link.text, text_member]
      | call method args => simp only [Link.attach, Link.text, text_call, List.append_assoc,
          List.cons_append]
    rw [chain_cons, ih, attached, List.flatMap_cons, List.append_assoc]

theorem wellNamed_chain {head : Expr} {links : List Link} :
    WellNamed (head.chain links).slots ↔
      WellNamed head.slots ∧ ∀ link ∈ links, WellNamed link.slots := by
  induction links generalizing head with
  | nil => simp [chain]
  | cons link links ih =>
    have attached : WellNamed (link.attach head).slots ↔
        WellNamed head.slots ∧ WellNamed link.slots := by
      cases link with
      | member name => simp [Link.attach, Link.slots, slots, and_comm]
      | call method args => simp [Link.attach, Link.slots, slots, and_left_comm]
    rw [chain_cons, ih, attached, List.forall_mem_cons, and_assoc]

theorem exists_chain_attach (link : Link) {target : Expr}
    (h : ∃ head links, isHead head ∧ target = head.chain links) :
    ∃ head links, isHead head ∧ link.attach target = head.chain links := by
  obtain ⟨head, links, isHead, rfl⟩ := h
  exact ⟨head, links ++ [link], isHead, by simp [chain]⟩

/-- Every expression is a chain. -/
theorem exists_chain : (e : Expr) → ∃ head links, isHead head ∧ e = head.chain links
  | .member target name => exists_chain_attach (.member name) target.exists_chain
  | .call target method args => exists_chain_attach (.call method args) target.exists_chain
  | .str value => ⟨.str value, [], rfl, rfl⟩
  | .int value => ⟨.int value, [], rfl, rfl⟩
  | .float value => ⟨.float value, [], rfl, rfl⟩
  | .ident name => ⟨.ident name, [], rfl, rfl⟩
  | .typeOf type => ⟨.typeOf type, [], rfl, rfl⟩
  | .create type args => ⟨.create type args, [], rfl, rfl⟩

end Expr

end Inspector.CSharp
