import Inspector.Naming.Derived

/-!
# Derived names tell what they are derived from

A derived name is a name of the target with a word behind it. So it ends in that
word, which keeps it apart from every name that does not, and what stands before
the word is the name it was derived from.
-/

namespace Inspector.Naming

theorem suffix_editorClass (name : String) : "Editor".toList <:+ (editorClass name).toList := by
  rw [editorClass, String.toList_append]
  exact List.suffix_append _ _

theorem sourceFile_eq (name : String) : sourceFile name = name ++ "Editor.cs" := by
  rw [sourceFile, editorClass, String.append_assoc]
  rfl

theorem suffix_labelField (name : String) : "Content".toList <:+ (labelField name).toList := by
  rw [labelField, String.toList_append]
  exact List.suffix_append _ _

theorem editorClass_injective : Function.Injective editorClass := by
  intro name other same
  have letters := congrArg String.toList same
  simp only [editorClass, String.toList_append] at letters
  exact String.toList_injective (List.append_cancel_right letters)

theorem labelField_injective : Function.Injective labelField := by
  intro name other same
  have letters := congrArg String.toList same
  simp only [labelField, String.toList_append] at letters
  exact String.toList_injective (List.append_cancel_right letters)

end Inspector.Naming
