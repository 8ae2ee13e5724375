/-! # Escaping for HTML
The five characters that are significant in HTML text or in the values of attributes are replaced by
entities. Every other character stands for itself, so a text without those five is left alone. -/

namespace Mustache.Html

/-- The entity that replaces a significant character. -/
def entity? : Char → Option String
  | '&' => some "&amp;"
  | '<' => some "&lt;"
  | '>' => some "&gt;"
  | '"' => some "&#34;"
  | '\'' => some "&#39;"
  | _ => none

/-- How a character is written. -/
def escapeChar (c : Char) : List Char :=
  match entity? c with
  | some entity => entity.toList
  | none => [c]

/-- The characters with entities for those that are significant. -/
def escapeChars (cs : List Char) : List Char := cs.flatMap escapeChar

@[simp] theorem escapeChars_nil : escapeChars [] = [] := rfl

@[simp] theorem escapeChars_cons (c : Char) (cs : List Char) :
    escapeChars (c :: cs) = escapeChar c ++ escapeChars cs := rfl

@[simp] theorem escapeChars_append (cs ds : List Char) :
    escapeChars (cs ++ ds) = escapeChars cs ++ escapeChars ds := List.flatMap_append

/-- The escaped form of a text, if it differs from the text: nothing is built for a text without
significant characters. -/
def escape? (s : String) : Option String :=
  if s.toList.any fun c => (entity? c).isSome then some (String.ofList (escapeChars s.toList))
  else none

/-- The escaped form of a text. -/
def escape (s : String) : String := (escape? s).getD s

/-- Both ways to the escaped form agree: it replaces each significant character by its entity. -/
theorem toList_escape (s : String) : (escape s).toList = escapeChars s.toList := by
  unfold escape escape?
  split
  · simp
  · rename_i h
    rw [Bool.not_eq_true, List.any_eq_false] at h
    simp only [Option.getD_none]
    generalize s.toList = cs at h
    induction cs with
    | nil => rfl
    | cons c cs ih =>
      have hc : entity? c = none := by simpa using h c List.mem_cons_self
      rw [escapeChars_cons, ← ih fun d hd => h d (List.mem_cons_of_mem _ hd)]
      simp [escapeChar, hc]

end Mustache.Html
