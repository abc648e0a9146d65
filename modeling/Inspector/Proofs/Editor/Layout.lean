import Inspector.Proofs.CSharp.Layout
import Inspector.Proofs.Editor.Names

/-!
# The layout of an editor

The texts of headings and tooltips are quoted in an editor as they are given, braces
and spaces and all. They cannot disturb its layout: a quoted text begins no line and
breaks none.

**The law** (`Target.rendered_laidOut`): the rendered editor of any accepted target is
laid out, with one empty line between any two members of its class, and ends with
exactly one newline.
-/

namespace Inspector

open CSharp

namespace Target

variable {t : Target}

/-- The rendered editor of an accepted target is laid out: its braces balance, its lines
are indented by their depth, its empty lines are single and hold nothing, its members
are apart, and it ends with one newline, whatever texts the target holds. -/
theorem rendered_laidOut (accepted : (Generation.build (some t) .initial).answer = .ok ()) :
    ∃ u text, (Generation.build (some t) .initial).request.held = some u ∧ u.render = .ok text ∧
      LaidOut (Text.segments '\n' text.toList) ∧
      u.cls.MembersApart (Text.segments '\n' text.toList) ∧
      ∃ front, text.toList = front ++ ['}', '\n'] := by
  have acceptable := acceptable_of_build accepted
  have named := acceptable.wellNamed_editor
  rw [Generation.build_of_accept rfl acceptable.accept]
  refine ⟨t.editor, t.editor.text, rfl, CompilationUnit.render_of_wellNamed named, ?_, ?_, ?_⟩
  · exact CompilationUnit.laidOut_text named
  · exact CompilationUnit.membersApart_text named
  · exact t.editor.exists_newline

/-- A target with braces and ends of lines in its texts. -/
def crate : Target where
  name := "Crate"
  scope := some "Game"
  lineage := ["MonoBehaviour"]
  fields :=
    [⟨"weight", "float", .isPublic, [.header "\x7b\n    \x7d\n\n"]⟩,
    ⟨"m_owner", "string", .nonPublic, [.serializeMarker, .tooltip "\x7d\n\x7b\n"]⟩]

theorem rendered_laidOut_crate :
    (Generation.build (some crate) .initial).answer = .ok () ∧
    ∃ u text, (Generation.build (some crate) .initial).request.held = some u ∧
      u.render = .ok text ∧
      LaidOut (Text.segments '\n' text.toList) ∧
      u.cls.MembersApart (Text.segments '\n' text.toList) ∧
      ∃ front, text.toList = front ++ ['}', '\n'] :=
  have accepted : (Generation.build (some crate) .initial).answer = .ok () := rfl
  ⟨accepted, rendered_laidOut accepted⟩

end Target

end Inspector
