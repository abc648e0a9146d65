import Inspector.Proofs.CSharp.Heads

/-!
# Expressions read back

A piece of an expression cannot be confused with another one. Heads are told
apart by their characters; a link is a dot and a word, and what follows the word
tells an access from a call.

**The law** (`Expr.cancels`): well-named expressions with something behind them
that closes an expression are equal as texts only piece by piece. The arguments
of a head and of its links are expressions again, so the law is proved along
the tree, with the links behind an expression carried along until its head is
reached (`Expr.cancels_chain`).
-/

namespace Inspector.CSharp

open Text

/-! ## Links -/

namespace Link

/-- A link whose arguments are taken apart. -/
def Cancels (link : Link) : Prop :=
  WellNamed link.slots ∧ ∀ a ∈ link.args, a.Cancels

theorem resumes_text {link : Link} (named : WellNamed link.slots) (r : List Char) :
    Resumes (link.text ++ r) := by
  cases link with
  | member name =>
    obtain ⟨c, rest, text, start, _⟩ := identifier_cons (wellNamed_cons.mp named).1
    simp only [Link.text, text]
    exact .link start
  | call method args =>
    obtain ⟨c, rest, text, start, _⟩ := identifier_cons (wellNamed_cons.mp named).1
    simp only [Link.text, text]
    exact .link start

theorem resumes_flatMap {links : List Link} (named : ∀ link ∈ links, WellNamed link.slots)
    {r : List Char} (hr : Resumes r) : Resumes (links.flatMap Link.text ++ r) := by
  cases links with
  | nil => exact hr
  | cons link links =>
    rw [List.flatMap_cons, List.append_assoc]
    exact resumes_text (named link List.mem_cons_self) _

theorem not_resumes_open {more : List Char} : ¬Resumes ('(' :: more) := by
  intro h
  cases h with
  | close closer => exact absurd closer (by decide)

/-- Links are equal only piece by piece. -/
theorem text_cancel {link link' : Link} {r r' : List Char} (cancels : link.Cancels)
    (named' : WellNamed link'.slots) (hr : Resumes r) (hr' : Resumes r')
    (h : link.text ++ r = link'.text ++ r') : link = link' ∧ r = r' := by
  obtain ⟨named, args⟩ := cancels
  have opens (more : List Char) : Stops continuesIdentifier ('(' :: more) :=
    stops_cons (by decide) more
  cases link with
  | member name =>
    have word := fun c => continuesIdentifier_of_mem (wellNamed_cons.mp named).1 (c := c)
    cases link' with
    | member name' =>
      obtain ⟨names, rest⟩ := run_cancel word
        (fun _ => continuesIdentifier_of_mem (wellNamed_cons.mp named').1)
        hr.stops_identifier hr'.stops_identifier (List.cons.inj h).2
      exact ⟨by rw [String.toList_inj.mp names], rest⟩
    | call method' args' =>
      simp only [text, List.cons_append, List.append_assoc] at h
      obtain ⟨_, behind⟩ := run_cancel word
        (fun _ => continuesIdentifier_of_mem (wellNamed_cons.mp named').1)
        hr.stops_identifier (opens _) (List.cons.inj h).2
      exact (not_resumes_open (behind ▸ hr)).elim
  | call method own =>
    have word := fun c => continuesIdentifier_of_mem (wellNamed_cons.mp named).1 (c := c)
    cases link' with
    | member name' =>
      simp only [text, List.cons_append, List.append_assoc] at h
      obtain ⟨_, behind⟩ := run_cancel word
        (fun _ => continuesIdentifier_of_mem (wellNamed_cons.mp named').1)
        (opens _) hr'.stops_identifier (List.cons.inj h).2
      exact (not_resumes_open (behind ▸ hr')).elim
    | call method' args' =>
      simp only [text, List.cons_append, List.append_assoc, List.nil_append] at h
      obtain ⟨methods, behind⟩ := run_cancel word
        (fun _ => continuesIdentifier_of_mem (wellNamed_cons.mp named').1)
        (opens _) (opens _) (List.cons.inj h).2
      obtain ⟨same, rest⟩ := Expr.argsText_cancel
        (wellNamed_listSlots.mp (wellNamed_cons.mp named).2)
        (wellNamed_listSlots.mp (wellNamed_cons.mp named').2) args (List.cons.inj behind).2
      exact ⟨by rw [String.toList_inj.mp methods, same], rest⟩

theorem not_closes_text (link : Link) (r : List Char) : ¬Closes (link.text ++ r) := by
  rintro ⟨c, more, text, closer⟩
  have dot : c = '.' := by
    cases link <;> exact (List.cons.inj text).1.symm
  rw [dot] at closer
  exact absurd closer (by decide)

/-- The links behind a head are equal only link by link. -/
theorem flatMap_cancel {links links' : List Link} {r r' : List Char}
    (cancels : ∀ link ∈ links, link.Cancels) (named' : ∀ link ∈ links', WellNamed link.slots)
    (hr : Closes r) (hr' : Closes r')
    (h : links.flatMap Link.text ++ r = links'.flatMap Link.text ++ r') :
    links = links' ∧ r = r' := by
  induction links generalizing links' with
  | nil =>
    cases links' with
    | nil => exact ⟨rfl, h⟩
    | cons link' links' =>
      have closes : Closes ((link' :: links').flatMap Link.text ++ r') := h ▸ hr
      rw [List.flatMap_cons, List.append_assoc] at closes
      exact (not_closes_text link' _ closes).elim
  | cons link links ih =>
    cases links' with
    | nil =>
      have closes : Closes ((link :: links).flatMap Link.text ++ r) := h ▸ hr'
      rw [List.flatMap_cons, List.append_assoc] at closes
      exact (not_closes_text link _ closes).elim
    | cons link' links' =>
      rw [List.flatMap_cons, List.flatMap_cons, List.append_assoc, List.append_assoc] at h
      have others := fun l hl => cancels l (List.mem_cons_of_mem link hl)
      have others' := fun l hl => named' l (List.mem_cons_of_mem link' hl)
      obtain ⟨first, behind⟩ := text_cancel (cancels link List.mem_cons_self)
        (named' link' List.mem_cons_self)
        (resumes_flatMap (fun l hl => (others l hl).1) hr.resumes)
        (resumes_flatMap others' hr'.resumes) h
      obtain ⟨same, rest⟩ := ih others others' behind
      exact ⟨by rw [first, same], rest⟩

end Link

/-! ## The law -/

namespace Expr

theorem cancels_of_head {head : Expr} (isHead : isHead head) (named : WellNamed head.slots)
    (args : ∀ a ∈ head.headArgs, a.Cancels) {links : List Link}
    (cancels : ∀ link ∈ links, link.Cancels) : (head.chain links).Cancels := by
  intro e' r r' named' hr hr' h
  obtain ⟨head', links', isHead', rfl⟩ := e'.exists_chain
  obtain ⟨headNamed', linksNamed'⟩ := wellNamed_chain.mp named'
  rw [text_chain, text_chain, List.append_assoc, List.append_assoc] at h
  obtain ⟨heads, behind⟩ := head_cancel isHead isHead' named headNamed' args
    (Link.resumes_flatMap (fun l hl => (cancels l hl).1) hr.resumes)
    (Link.resumes_flatMap linksNamed' hr'.resumes) h
  obtain ⟨same, rest⟩ := Link.flatMap_cancel cancels linksNamed' hr hr' behind
  exact ⟨by rw [heads, same], rest⟩

mutual

/-- The law with links behind an expression. On the way to the head each target
hands its own link on, with the arguments already taken apart. -/
theorem cancels_chain : (e : Expr) → WellNamed e.slots → (links : List Link) →
    (∀ link ∈ links, link.Cancels) → (e.chain links).Cancels
  | .member target name, named, links, cancels => by
    obtain ⟨simple, targetNamed⟩ := wellNamed_cons.mp named
    have link : (Link.member name).Cancels :=
      ⟨wellNamed_cons.mpr ⟨simple, wellNamed_nil⟩, fun _ ha => by cases ha⟩
    exact cancels_chain target targetNamed (.member name :: links)
      (List.forall_mem_cons.mpr ⟨link, cancels⟩)
  | .call target method args, named, links, cancels => by
    obtain ⟨simple, others⟩ := wellNamed_cons.mp named
    obtain ⟨targetNamed, argsNamed⟩ := wellNamed_append.mp others
    have link : (Link.call method args).Cancels :=
      ⟨wellNamed_cons.mpr ⟨simple, argsNamed⟩, cancels_list args argsNamed⟩
    exact cancels_chain target targetNamed (.call method args :: links)
      (List.forall_mem_cons.mpr ⟨link, cancels⟩)
  | .create type args, named, _, cancels =>
    cancels_of_head rfl named (cancels_list args (wellNamed_cons.mp named).2) cancels
  | .str _, named, _, cancels => cancels_of_head rfl named (fun _ ha => by cases ha) cancels
  | .int _, named, _, cancels => cancels_of_head rfl named (fun _ ha => by cases ha) cancels
  | .float _, named, _, cancels => cancels_of_head rfl named (fun _ ha => by cases ha) cancels
  | .ident _, named, _, cancels => cancels_of_head rfl named (fun _ ha => by cases ha) cancels
  | .typeOf _, named, _, cancels => cancels_of_head rfl named (fun _ ha => by cases ha) cancels

theorem cancels_list : (es : List Expr) → WellNamed (listSlots es) → ∀ e ∈ es, e.Cancels
  | [], _, _, mem => by cases mem
  | e :: rest, named, a, mem => by
    obtain ⟨first, others⟩ := wellNamed_append.mp named
    rcases List.mem_cons.mp mem with same | mem
    · rw [same]
      exact cancels_chain e first [] (fun _ hl => by cases hl)
    · exact cancels_list rest others a mem

end

/-- A well-named expression is equal as a text only piece by piece. -/
theorem cancels {e : Expr} (named : WellNamed e.slots) : e.Cancels :=
  cancels_chain e named [] fun _ hl => by cases hl

end Expr

end Inspector.CSharp
