import FluxonAssist.Proofs.DeclarationGrammar
import FluxonAssist.Proofs.FlawTexts
import FluxonAssist.Proofs.OfferedArities
import FluxonAssist.Proofs.RankedList

/-!
# Argument counts read back from their words

The words for argument counts have exactly these counts as their numbers; only no arguments at all
are put without a number. So the words stand for one list of counts. In the documentation of a
function they end the last line with the heading of the parameters, whatever lines the namespace
has, and a reader of the documentation finds the counts there.
-/
set_option autoImplicit false
namespace FluxonAssist

open FluxonAssist.Text

/-! ## Numbers in a text -/

/-- The numbers in a text, from its longest runs of digits. -/
def numbersIn (text : List Char) : List Nat :=
  ((pieces (fun c => !c.isDigit) text).filter fun run => !run.isEmpty).map Snippet.decimal

theorem numbersIn_append_cons (front rest : List Char) {c : Char} (cuts : c.isDigit = false) :
    numbersIn (front ++ c :: rest) = numbersIn front ++ numbersIn rest := by
  have apart : pieces (fun c => !c.isDigit) (front ++ c :: rest) =
      pieces (fun c => !c.isDigit) front ++ pieces (fun c => !c.isDigit) rest :=
    pieces_append_cons front rest (by simp [cuts])
  rw [numbersIn, apart, List.filter_append, List.map_append]
  rfl

theorem numbersIn_cons (rest : List Char) {c : Char} (cuts : c.isDigit = false) :
    numbersIn (c :: rest) = numbersIn rest :=
  numbersIn_append_cons [] rest cuts

theorem numbersIn_toDigits (n : Nat) : numbersIn (Nat.toDigits 10 n) = [n] := by
  have numeral := Snippet.isNumeral_toDigits n
  have whole : pieces (fun c => !c.isDigit) (Nat.toDigits 10 n) = [Nat.toDigits 10 n] := by
    apply pieces_whole
    intro c member
    rw [numeral.decimals c member]
    rfl
  have value : Snippet.decimal (Nat.toDigits 10 n) = n := Nat.ofDigitChars_ten_toDigits
  simp [numbersIn, whole, value]

theorem numbersIn_listCounts (params : List Nat) :
    numbersIn (listCounts params).toList = params := by
  unfold listCounts
  induction params with
  | nil => rfl
  | cons n rest ih =>
      cases rest with
      | nil =>
          show numbersIn (toString n).toList = [n]
          rw [Nat.toString_eq_repr, Nat.toList_repr, numbersIn_toDigits]
      | cons m rest =>
          have split : (joined ", " ((n :: m :: rest).map toString)).toList =
              Nat.toDigits 10 n ++ ',' :: ' ' ::
                (joined ", " ((m :: rest).map toString)).toList := by
            simp [joined]
          rw [split, numbersIn_append_cons _ _ rfl, numbersIn_cons _ rfl, ih, numbersIn_toDigits]
          rfl

/-! ## Words for counts -/

/-- The counts that words stand for: their numbers, or zero if they have none. -/
def countsOf (words : List Char) : List Nat :=
  match numbersIn words with
  | [] => [0]
  | counts => counts

theorem countsOf_eq {words : List Char} {counts : List Nat} (read : numbersIn words = counts)
    (nonempty : counts ≠ []) : countsOf words = counts := by
  subst read
  unfold countsOf
  split
  · contradiction
  · rfl

theorem countsOf_describeArity {params : List Nat} (nonempty : params ≠ []) :
    countsOf (describeArity params).toList = params := by
  fun_cases describeArity params with
  | case1 => exact absurd rfl nonempty
  | case2 => decide
  | case3 => decide
  | case4 n _ _ =>
      have split : (toString n ++ " arguments").toList =
          Nat.toDigits 10 n ++ ' ' :: "arguments".toList := by simp
      apply countsOf_eq _ nonempty
      rw [split, numbersIn_append_cons _ _ rfl, numbersIn_toDigits]
      rfl
  | case5 _ _ _ =>
      have split : (listCounts params.dropLast ++ " or " ++ toString (params.getLastD 0) ++
          " arguments").toList =
          (listCounts params.dropLast).toList ++ ' ' :: 'o' :: 'r' :: ' ' ::
            (Nat.toDigits 10 (params.getLastD 0) ++ ' ' :: "arguments".toList) := by simp
      have last : params.getLastD 0 = params.getLast nonempty := by
        rw [List.getLastD_eq_getLast?, List.getLast?_eq_some_getLast nonempty]
        rfl
      -- no separator has a digit, so the numbers are those of the parts
      apply countsOf_eq _ nonempty
      rw [split, numbersIn_append_cons _ _ rfl, numbersIn_cons _ rfl, numbersIn_cons _ rfl,
        numbersIn_cons _ rfl, numbersIn_append_cons _ _ rfl, numbersIn_listCounts,
        numbersIn_toDigits, last]
      exact List.dropLast_concat_getLast nonempty

theorem mem_joined {separator : String} {texts : List String} {c : Char}
    (member : c ∈ (joined separator texts).toList) :
    c ∈ separator.toList ∨ ∃ text ∈ texts, c ∈ text.toList := by
  induction texts with
  | nil => simp [joined] at member
  | cons text rest ih =>
      cases rest with
      | nil => exact .inr ⟨text, List.mem_cons_self, member⟩
      | cons next rest =>
          have split : joined separator (text :: next :: rest) =
              text ++ separator ++ joined separator (next :: rest) := rfl
          rw [split, String.toList_append, String.toList_append, List.mem_append,
            List.mem_append] at member
          rcases member with (here | between) | later
          · exact .inr ⟨text, List.mem_cons_self, here⟩
          · exact .inl between
          · rcases ih later with between | ⟨other, listed, here⟩
            · exact .inl between
            · exact .inr ⟨other, List.mem_cons_of_mem _ listed, here⟩

theorem newline_not_mem_listCounts (params : List Nat) :
    '\n' ∉ (listCounts params).toList := by
  intro member
  rcases mem_joined member with between | ⟨text, listed, here⟩
  · exact absurd between (by decide)
  · obtain ⟨n, -, rfl⟩ := List.mem_map.mp listed
    rw [Nat.toString_eq_repr, Nat.toList_repr] at here
    exact Catalog.not_mem_toDigits rfl n here

theorem newline_not_mem_describeArity (params : List Nat) :
    '\n' ∉ (describeArity params).toList := by
  have digits (n : Nat) : '\n' ∉ Nat.toDigits 10 n := Catalog.not_mem_toDigits rfl n
  fun_cases describeArity params with
  | case1 => decide
  | case2 => decide
  | case3 => decide
  | case4 n _ _ => simp [digits]
  | case5 _ _ _ => simp [digits, newline_not_mem_listCounts]

/-! ## Lines of a documentation -/

/-- What the lines of a text say of parameters. -/
def parameterLines (text : List Char) : List (List Char) :=
  (pieces (fun c => c == '\n') text).filterMap (afterStart? "**Parameters:** ".toList)

theorem parameterLines_append_cons (front rest : List Char) :
    parameterLines (front ++ '\n' :: rest) = parameterLines front ++ parameterLines rest := by
  have apart : pieces (fun c => c == '\n') (front ++ '\n' :: rest) =
      pieces (fun c => c == '\n') front ++ pieces (fun c => c == '\n') rest :=
    pieces_append_cons front rest rfl
  rw [parameterLines, apart, List.filterMap_append]
  rfl

theorem parameterLines_joined (texts : List String) :
    parameterLines (joined "\n\n" texts).toList =
      texts.flatMap fun text => parameterLines text.toList := by
  induction texts with
  | nil => rfl
  | cons text rest ih =>
      cases rest with
      | nil => simp [joined]
      | cons next rest =>
          have split : (joined "\n\n" (text :: next :: rest)).toList =
              text.toList ++ '\n' :: ([] ++ '\n' :: (joined "\n\n" (next :: rest)).toList) := by
            simp [joined]
          rw [split, parameterLines_append_cons, parameterLines_append_cons, ih]
          rfl

theorem parameterLines_single {line : List Char} (single : '\n' ∉ line) :
    parameterLines line = (afterStart? "**Parameters:** ".toList line).toList := by
  have whole : pieces (fun c => c == '\n') line = [line] := by
    apply pieces_whole
    intro c member
    rw [beq_eq_false_iff_ne]
    rintro rfl
    exact single member
  rw [parameterLines, whole]
  cases found : afterStart? "**Parameters:** ".toList line with
  | none =>
      rw [List.filterMap_cons_none found]
      rfl
  | some words =>
      rw [List.filterMap_cons_some found]
      rfl

theorem afterStart?_append (start rest : List Char) :
    afterStart? start (start ++ rest) = some rest := by
  induction start with
  | nil => rfl
  | cons c start ih => simp [afterStart?, ih]

theorem parameterLines_heading {words : String} (single : '\n' ∉ words.toList) :
    parameterLines ("**Parameters:** " ++ words).toList = [words.toList] := by
  have plain : '\n' ∉ "**Parameters:** ".toList := by decide
  rw [String.toList_append, parameterLines_single, afterStart?_append]
  · rfl
  · rw [List.mem_append]
    exact not_or.mpr ⟨plain, single⟩

namespace Candidate

/-- The counts that a documentation shows, in the last of its lines on parameters. -/
def shownCounts (documentation : String) : List Nat :=
  countsOf ((parameterLines documentation.toList).getLastD [])

/-- Nothing that stands before the line on parameters, be it in several lines, is taken for it. -/
theorem shownCounts_joined (before after : List String) {params : List Nat}
    (nonempty : params ≠ []) (silent : ∀ text ∈ after, parameterLines text.toList = []) :
    shownCounts (joined "\n\n"
      (before ++ ("**Parameters:** " ++ describeArity params) :: after)) = params := by
  have nothing : after.flatMap (fun text => parameterLines text.toList) = [] :=
    List.flatMap_eq_nil_iff.mpr silent
  rw [shownCounts, parameterLines_joined, List.flatMap_append, List.flatMap_cons,
    parameterLines_heading (newline_not_mem_describeArity params), nothing, List.append_nil,
    List.getLastD_eq_getLast?, List.getLast?_concat]
  exact countsOf_describeArity nonempty

theorem shownCounts_entryDocumentation (f : FunctionEntry) (nonempty : f.params ≠ []) :
    shownCounts (entryDocumentation f) = f.params := by
  rw [entryDocumentation, List.append_assoc, List.append_assoc, List.singleton_append]
  apply shownCounts_joined _ _ nonempty
  intro text member
  have flag : text = "**Async:** Yes" ∨ text = "**Primary sync:** Yes" := by
    revert member
    cases f.isAsync <;> cases f.primarySync <;> simp +contextual
  rcases flag with rfl | rfl <;> decide

theorem shownCounts_ofUserFunction (f : UserFunction) :
    (ofUserFunction f).documentation.map shownCounts = some [f.arity.toNat] := by
  have paragraphs : "**User-defined function**\n\n**Parameters:** " ++
      describeArity [f.arity.toNat] ++ "\n\nDeclared on line " ++
        toString (f.span.line + 1).toNat =
      joined "\n\n" (["**User-defined function**"] ++
        ("**Parameters:** " ++ describeArity [f.arity.toNat]) ::
          ["Declared on line " ++ toString (f.span.line + 1).toNat]) := by
    apply String.toList_inj.mp
    simp [joined]
  show some (shownCounts _) = _
  rw [paragraphs, shownCounts_joined _ _ (List.cons_ne_nil _ _)]
  intro text member
  rw [List.mem_singleton.mp member, parameterLines_single]
  · simp [afterStart?]
  · simp [Catalog.not_mem_toDigits]

/-! ## Functions of loaded catalogs -/

def Source.counts? : Source → Option (List Nat)
  | .primary f => some f.params
  | .demoted f => some f.params
  | .user f => some [f.arity.toNat]
  | _ => none

theorem Source.shownCounts_candidate {source : Source} {counts : List Nat}
    (known : source.counts? = some counts) (nonempty : counts ≠ []) (showNamespaces : Bool) :
    (source.candidate showNamespaces).documentation.map shownCounts = some counts := by
  cases source with
  | primary f =>
      cases known
      exact congrArg some (shownCounts_entryDocumentation f nonempty)
  | demoted f =>
      cases known
      exact congrArg some (shownCounts_entryDocumentation f nonempty)
  | user f =>
      cases known
      exact shownCounts_ofUserFunction f
  | _ => cases known

end Candidate

theorem Catalog.normal_of_parse {text : String} {c : Catalog} (parsed : parse text = .ok c) :
    (∀ f ∈ c.system, f.Normal) ∧ ∀ f ∈ extensionFunctions c.extensions, f.Normal := by
  obtain ⟨members, entries, hosts, -, represents⟩ := exists_represents parsed
  refine ⟨?_, represents.normal⟩
  intro f member
  obtain ⟨entry, -, declared, -, normalizes⟩ :=
    exists_right_of_forall₂ represents.systemFunctions.flip member
  exact normalizes.normal

theorem Catalog.mem_of_functionsOfHost {extensions : List (String × List FunctionEntry)}
    {host : String} {f : FunctionEntry} (member : f ∈ functionsOfHost extensions host) :
    f ∈ extensionFunctions extensions := by
  rw [functionsOfHost] at member
  cases found : extensions.lookup host with
  | none =>
      rw [found] at member
      cases member
  | some functions =>
      rw [found] at member
      obtain ⟨before, later, split, -⟩ := List.lookup_eq_some_iff.mp found
      refine List.mem_flatMap.mpr ⟨(host, functions), ?_, member⟩
      rw [split]
      simp

theorem Store.exists_parsed {store : Store} {history : List (Disk × Store.Operation)}
    (reached : store = Store.run {} history) {loaded : LoadedCatalog}
    (current : store.current = .ok loaded) : ∃ text, Catalog.parse text = .ok loaded.catalog := by
  have held : store.loaded = some loaded := by
    unfold Store.current at current
    split at current
    · cases current
    · cases current
    · cases current
      assumption
  have isLoaded : (Store.run {} history).isLoaded = true := by
    rw [← reached, Store.isLoaded, held]
    rfl
  have success : ({} : Store).SomeSucceeds history :=
    ((Store.run_isLoaded_iff {} history).mp isLoaded).resolve_left (by decide)
  obtain ⟨before, disk, request, later, last⟩ := Store.exists_lastLoad {} history success
  obtain ⟨path, text, catalog, -, parsed, served⟩ := last.served_eq
  rw [← reached, Store.served, held] at served
  obtain ⟨-, rfl⟩ := Prod.mk.inj (Option.some.inj served)
  exact ⟨text, parsed⟩

namespace Candidate

/-- The function that a candidate is made from has a count. -/
def Source.Counted (source : Source) : Prop :=
  ∀ counts, source.counts? = some counts → counts ≠ []

theorem counted_map {functions : List FunctionEntry} (normal : ∀ f ∈ functions, f.Normal)
    {make : FunctionEntry → Source} (made : ∀ f, (make f).counts? = some f.params) :
    ∀ source ∈ functions.map make, source.Counted := by
  intro source member counts known
  obtain ⟨f, here, rfl⟩ := List.mem_map.mp member
  rw [made f] at known
  cases known
  exact (normal f here).nonempty

theorem normal_extensionEntries {loaded : LoadedCatalog}
    (normal : ∀ f ∈ Catalog.extensionFunctions loaded.catalog.extensions, f.Normal)
    (hosts : HostSelector) : ∀ f ∈ extensionEntries loaded hosts, f.Normal := by
  cases hosts with
  | all =>
      intro f member
      rw [extensionEntries, Store.merged_of_loaded] at member
      exact (Catalog.mergeDeclarations_indexOf _).normal normal f member
  | host name =>
      intro f member
      exact normal f (Catalog.mem_of_functionsOfHost member)

theorem counted_of_none {source : Source} (none : source.counts? = none) : source.Counted := by
  intro counts known
  rw [none] at known
  cases known

/-- Every function of a catalog that was read from a text has a count. -/
theorem SourcesOf.counted {store : Store} {loaded : LoadedCatalog}
    (current : store.current = .ok loaded) {text : String}
    (parsed : Catalog.parse text = .ok loaded.catalog) {users : List UserFunction}
    {options : ListOptions} {context : Context} {sources : List Source}
    (made : SourcesOf store users options context sources) :
    ∀ source ∈ sources, source.Counted := by
  obtain ⟨systemNormal, extensionNormal⟩ := Catalog.normal_of_parse parsed
  have offered := normal_extensionEntries extensionNormal
  have called (hosts : HostSelector) :
      ∀ source ∈ (if options.enableExtensions then
          (extensionEntries loaded hosts).map Source.primary else []) ++
        loaded.catalog.system.map Source.demoted, source.Counted := by
    intro source member
    rcases List.mem_append.mp member with extension | system
    · cases enabled : options.enableExtensions
      · simp [enabled] at extension
      · rw [enabled] at extension
        exact counted_map (offered hosts) (fun _ => rfl) source extension
    · exact counted_map systemNormal (fun _ => rfl) source system
  cases made with
  | ignored => exact List.forall_mem_nil _
  | topLevel system known =>
      rw [Store.systemFunctions, current] at known
      cases known
      intro source member
      rcases List.mem_append.mp member with front | user
      · rcases List.mem_append.mp front with word | entry
        · obtain ⟨row, -, rfl⟩ := List.mem_map.mp word
          exact counted_of_none rfl
        · exact counted_map systemNormal (fun _ => rfl) source entry
      · cases included : options.includeUserFunctions
        · simp [included] at user
        · rw [included] at user
          obtain ⟨f, -, rfl⟩ := List.mem_map.mp user
          intro counts known
          cases known
          exact List.cons_ne_nil _ _
  | everyHost merged system indexed known =>
      rw [Store.systemFunctions, current] at known
      rw [Store.merged, current] at indexed
      cases known
      cases indexed
      exact called .all
  | oneHost host functions system listed known =>
      rw [Store.systemFunctions, current] at known
      rw [Store.functionsOfHost, current] at listed
      cases known
      cases listed
      exact called (.host host)
  | singleColon =>
      intro source member
      rw [List.mem_singleton.mp member]
      exact counted_of_none rfl
  | annotationName =>
      intro source member
      obtain ⟨info, -, rfl⟩ := List.mem_map.mp member
      exact counted_of_none rfl
  | importNamespace quote names known =>
      intro source member
      obtain ⟨name, -, rfl⟩ := List.mem_map.mp member
      exact counted_of_none rfl

/-- The words for argument counts stand for one list of counts, so they tell any two sets of counts
apart. The documentation of every function, whatever its namespace, shows all its counts to a reader
that knows nothing else of it; and in the lists of a loaded store every function has a count. -/
theorem arity_text_determines_counts :
    (∀ a b : List Nat, a ≠ [] → b ≠ [] → describeArity a = describeArity b → a = b) ∧
    (∀ (source : Source) (counts : List Nat) (showNamespaces : Bool),
      source.counts? = some counts → counts ≠ [] →
      (source.candidate showNamespaces).documentation.map shownCounts = some counts) ∧
    ∀ (history : List (Disk × Store.Operation)) (store : Store) (context : Context)
      (users : List UserFunction) (options : ListOptions),
      store = Store.run {} history → store.isLoaded = true →
      ∃ sources, SourcesOf store users options context sources ∧
        list context store users options =
          sources.map (Source.candidate options.showNamespaces) ∧
        ∀ source ∈ sources, ∀ counts, source.counts? = some counts → counts ≠ [] ∧
          (source.candidate options.showNamespaces).documentation.map shownCounts =
            some counts := by
  refine ⟨?_, ?_, ?_⟩
  · intro a b someA someB same
    rw [← countsOf_describeArity someA, same, countsOf_describeArity someB]
  · intro source counts showNamespaces known nonempty
    exact Source.shownCounts_candidate known nonempty showNamespaces
  · intro history store context users options reached isLoaded
    obtain ⟨loaded, current⟩ := Store.exists_current reached isLoaded
    obtain ⟨text, parsed⟩ := Store.exists_parsed reached current
    obtain ⟨sources, made, listed⟩ := exists_sourcesOf current context users options
    refine ⟨sources, made, listed, ?_⟩
    intro source member counts known
    have nonempty := made.counted current parsed source member counts known
    exact ⟨nonempty, Source.shownCounts_candidate known nonempty _⟩

/-- A namespace that has a line on parameters of its own. -/
def misleading : FunctionEntry :=
  ⟨"f", some "n`\n\n**Parameters:** 7 arguments", [0, 1, 3], true, false⟩

theorem misleading_shows_counts :
    (ofEntry misleading .primary true).documentation.map shownCounts = some [0, 1, 3] ∧
      describeArity [0, 1, 3] ≠ describeArity [0, 13] := by
  obtain ⟨unambiguous, shows, -⟩ := arity_text_determines_counts
  refine ⟨shows (.primary misleading) [0, 1, 3] true rfl (by decide), ?_⟩
  intro same
  exact absurd (unambiguous _ _ (by decide) (by decide) same) (by decide)

end Candidate
end FluxonAssist
