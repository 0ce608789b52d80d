import FluxonAssist.Candidate.Snippet
import FluxonAssist.Candidate.Vocabulary
import FluxonAssist.Catalog.Basic
import FluxonAssist.Declaration

/-!
# Candidates

A candidate is one entry of a completion list: what is shown, what is inserted and where it is
ranked. Clients sort by the text of the rank, the tier first and the name after it.
-/
set_option autoImplicit false
namespace FluxonAssist

inductive SortTier where
  /-- Keywords, annotations, namespaces and the colon hint. -/
  | static
  /-- The functions that the context asks for. -/
  | primary
  /-- System functions in an extension call. -/
  | demoted
  | user
  deriving DecidableEq, Repr

def SortTier.number : SortTier → Nat
  | .static => 0
  | .primary => 1
  | .demoted => 2
  | .user => 3

structure Rank where
  tier : SortTier
  name : String
  deriving DecidableEq, Repr

def Rank.sortText (rank : Rank) : String := toString rank.tier.number ++ "_" ++ rank.name

inductive CandidateKind where
  | function
  | namespaceName
  | annotationName
  | keyword
  | constant
  | operator
  deriving DecidableEq, Repr

inductive InsertFormat where
  | plain
  | snippet
  deriving DecidableEq, Repr

/-- A command that the client runs after the insertion. -/
structure ClientCommand where
  title : String
  command : String
  deriving DecidableEq, Repr

structure Candidate where
  label : String
  kind : CandidateKind
  detail : String
  /-- Markdown. -/
  documentation : Option String := none
  rank : Rank
  filterText : Option String := none
  /-- The inserted text and its format; without them the label is inserted. -/
  insert : Option (String × InsertFormat) := none
  command : Option ClientCommand := none
  deriving DecidableEq, Repr

namespace Candidate

def entryDetail (f : FunctionEntry) (showNamespace : Bool) : String :=
  joined " | "
    ((match f.namespaceName with
      | some name => if showNamespace then ["namespace: " ++ name] else []
      | none => []) ++
     ["params: [" ++ listCounts f.params ++ "]"] ++
     (if f.isAsync then ["async"] else []) ++
     (if f.primarySync then ["primarySync"] else []))

def entryDocumentation (f : FunctionEntry) : String :=
  joined "\n\n"
    ((match f.namespaceName with
      | some name => ["**Namespace:** `" ++ name ++ "`"]
      | none => []) ++
     ["**Parameters:** " ++ describeArity f.params] ++
     (if f.isAsync then ["**Async:** Yes"] else []) ++
     (if f.primarySync then ["**Primary sync:** Yes"] else []))

def ofEntry (f : FunctionEntry) (tier : SortTier) (showNamespace : Bool) : Candidate where
  label := f.name
  kind := .function
  detail := entryDetail f showNamespace
  documentation := some (entryDocumentation f)
  rank := ⟨tier, f.name⟩
  insert := some (Snippet.call f.name f.minArity, .snippet)

def ofUserFunction (f : UserFunction) : Candidate where
  label := f.name
  kind := .function
  detail := joined " | "
    (["user-defined"] ++ (if f.isAsync then ["async"] else []) ++
      (if f.isSync then ["sync"] else []) ++ ["params: [" ++ toString f.arity.toNat ++ "]"])
  documentation := some
    ("**User-defined function**\n\n**Parameters:** " ++ describeArity [f.arity.toNat] ++
      "\n\nDeclared on line " ++ toString (f.span.line + 1).toNat)
  rank := ⟨.user, f.name⟩
  insert := some (Snippet.call f.name f.arity.toNat, .snippet)

def kindOfGroup : KeywordGroup → CandidateKind
  | .control => .keyword
  | .declaration => .keyword
  | .constant => .constant

def ofKeyword (word : String) (group : KeywordGroup) : Candidate where
  label := word
  kind := kindOfGroup group
  detail := group.detail
  rank := ⟨.static, word⟩

def ofAnnotationInfo (info : AnnotationInfo) : Candidate where
  label := info.name
  kind := .annotationName
  detail := "annotation"
  documentation := some
    ("**@" ++ info.name ++ "**\n\n" ++ info.description ++ "\n\n**Parameters:** " ++
      (if info.params.isEmpty then "none" else joined ", " info.params))
  rank := ⟨.static, info.name⟩
  insert := some
    (if info.params.isEmpty then info.name
      else info.name ++ "(" ++ joined ", " (Snippet.parametersFrom 1 info.params) ++ ")", .snippet)

/-- The colon that turns `:` into `::`. -/
def colonHint : Candidate where
  label := "::"
  kind := .operator
  detail := "extension call"
  documentation := some "Type `::` to call an extension function on the receiver"
  rank := ⟨.static, ":"⟩
  filterText := some ":"
  insert := some (":", .plain)
  command := some
    { title := "Trigger extension completion", command := "editor.action.triggerSuggest" }

/-- A namespace; it is closed with the quote already typed, or put in double quotes. -/
def ofNamespace (name : String) (quote : Option Char) : Candidate where
  label := name
  kind := .namespaceName
  detail := "namespace"
  rank := ⟨.static, name⟩
  insert := some
    (match quote with
      | some q => name ++ String.singleton q
      | none => "\x22" ++ name ++ "\x22", .plain)

end Candidate
end FluxonAssist
