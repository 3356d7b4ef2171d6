import EditorAssist.Lexing.Recognizer
import EditorAssist.Lexing.Rule

/-! The rule tables of the language, one ordered list for each mode. -/
namespace EditorAssist

/-- The rules of each mode, in the order in which they are tried. -/
abbrev RuleTable := Mode → List Rule

namespace RuleTable
open Recognizer

def codeRules : List Rule :=
  [⟨"block_comment_open", literal? ['#', '['], .emit .comment, some .comment⟩,
   ⟨"line_comment", lineComment?, .emit .comment, none⟩,
   ⟨"module_reference", word? isUpper isNamePart, .emit .moduleName, none⟩,
   ⟨"member_access", dottedName?, .dotted, none⟩,
   ⟨"string", string?, .emit .string, none⟩,
   ⟨"char", charLiteral?, .emit .string, none⟩,
   ⟨"open_string", literal? ['"'], .emit .string, some .quoted⟩,
   ⟨"number", NumberLiteral.number?, .emit .number, none⟩,
   ⟨"identifier", word? isNameStart isNamePart, .byWord, none⟩,
   ⟨"operator", operator?, .emit .operator, none⟩,
   ⟨"open_paren", one? isOpening, .emit .opening, none⟩,
   ⟨"close_paren", one? isClosing, .emit .closing, none⟩,
   ⟨"whitespace", run? isBlank, .emit .plain, none⟩]

/-- The rules inside a block comment. -/
def commentRules : List Rule :=
  [⟨"block_comment_close", commentEnd?, .emit .comment, some .code⟩,
   ⟨"block_comment_body", run? isInline, .emit .comment, none⟩]

/-- The rules inside a string that was left open. -/
def quotedRules : List Rule :=
  [⟨"escape", escape?, .emit .string, none⟩,
   ⟨"string_body", run? isStringBody, .emit .string, none⟩,
   ⟨"line_continuation", literal? ['\\'], .emit .string, none⟩,
   ⟨"close_string", literal? ['"'], .emit .string, some .code⟩]

def standard : RuleTable
  | .code => codeRules
  | .comment => commentRules
  | .quoted => quotedRules

def without (name : String) (table : RuleTable) : RuleTable :=
  fun mode => (table mode).filter (·.name != name)

end EditorAssist.RuleTable
