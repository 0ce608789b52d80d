import FluxonAssist.Proofs.StoreRun

/-!
# Ranked completion lists

A completion list has one candidate for each of its sources, in their order, and the tiers of the
sources do not decrease. The text that clients sort by starts with one digit for the tier, so for
any names it is ordered octet by octet as the tier and then the name: a client that sorts by it
keeps the tiers apart and orders each tier by name.
-/
set_option autoImplicit false
namespace FluxonAssist

open FluxonAssist.Text

/-! ## The text of a rank -/

def SortTier.digit : SortTier → Char
  | .static => '0'
  | .primary => '1'
  | .demoted => '2'
  | .user => '3'

theorem SortTier.digit_lt_iff (tier other : SortTier) :
    tier.digit < other.digit ↔ tier.number < other.number := by
  cases tier <;> cases other <;> decide

theorem SortTier.digit_eq_iff (tier other : SortTier) :
    tier.digit = other.digit ↔ tier = other := by
  cases tier <;> cases other <;> decide

theorem SortTier.number_eq_iff (tier other : SortTier) :
    tier.number = other.number ↔ tier = other := by
  cases tier <;> cases other <;> decide

namespace Rank

theorem toList_sortText (rank : Rank) :
    rank.sortText.toList = rank.tier.digit :: '_' :: rank.name.toList := by
  rw [sortText, String.toList_append, String.toList_append]
  cases rank.tier <;> rfl

theorem sortText_lt_iff (rank other : Rank) :
    octets rank.sortText < octets other.sortText ↔
      rank.tier.number < other.tier.number ∨
        rank.tier = other.tier ∧ octets rank.name < octets other.name := by
  have underscore (rest others : List Char) : '_' :: rest < '_' :: others ↔ rest < others := by
    rw [List.cons_lt_cons_iff]
    simp
  rw [octets_lt_iff, octets_lt_iff]
  show rank.sortText.toList < other.sortText.toList ↔ _
  rw [toList_sortText, toList_sortText, List.cons_lt_cons_iff, SortTier.digit_lt_iff,
    SortTier.digit_eq_iff, underscore]
  rfl

theorem sortText_inj {rank other : Rank} (same : rank.sortText = other.sortText) :
    rank = other := by
  have texts := congrArg String.toList same
  rw [toList_sortText, toList_sortText] at texts
  obtain ⟨digits, rest⟩ := List.cons.inj texts
  obtain ⟨-, names⟩ := List.cons.inj rest
  cases rank
  cases other
  simp only [Rank.mk.injEq]
  exact ⟨(SortTier.digit_eq_iff _ _).mp digits, String.toList_inj.mp names⟩

end Rank

/-! ## The sources of a list -/

theorem Store.exists_current {store : Store} {history : List (Disk × Store.Operation)}
    (reached : store = Store.run {} history) (isLoaded : store.isLoaded = true) :
    ∃ loaded, store.current = .ok loaded := by
  have sound : store.Sound := by
    rw [reached]
    exact Store.run_sound {} history (by simp [Store.Sound, Store.isLoaded])
  obtain ⟨paths, given⟩ := Option.isSome_iff_exists.mp (sound isLoaded)
  obtain ⟨loaded, found⟩ := Option.isSome_iff_exists.mp isLoaded
  exact ⟨loaded, by simp [Store.current, given, found]⟩

namespace Candidate

inductive Source where
  | keyword (word : String) (group : KeywordGroup)
  | annotationInfo (info : AnnotationInfo)
  | namespaceName (name : String) (quote : Option Char)
  | colon
  | primary (f : FunctionEntry)
  | demoted (f : FunctionEntry)
  | user (f : UserFunction)

namespace Source

def name : Source → String
  | .keyword word _ => word
  | .annotationInfo info => info.name
  | .namespaceName name _ => name
  | .colon => "::"
  | .primary f => f.name
  | .demoted f => f.name
  | .user f => f.name

def tier : Source → SortTier
  | .primary _ => .primary
  | .demoted _ => .demoted
  | .user _ => .user
  | _ => .static

def candidate (showNamespaces : Bool) : Source → Candidate
  | .keyword word group => ofKeyword word group
  | .annotationInfo info => ofAnnotationInfo info
  | .namespaceName name quote => ofNamespace name quote
  | .colon => colonHint
  | .primary f => ofEntry f .primary showNamespaces
  | .demoted f => ofEntry f .demoted showNamespaces
  | .user f => ofUserFunction f

theorem label_candidate (source : Source) (showNamespaces : Bool) :
    (source.candidate showNamespaces).label = source.name := by
  cases source <;> rfl

theorem tier_candidate (source : Source) (showNamespaces : Bool) :
    (source.candidate showNamespaces).rank.tier = source.tier := by
  cases source <;> rfl

/-- Only the colon hint is ranked by another name than the one it shows. -/
theorem rank_candidate (source : Source) (other : source ≠ .colon) (showNamespaces : Bool) :
    (source.candidate showNamespaces).rank = ⟨source.tier, source.name⟩ := by
  cases source with
  | colon => exact absurd rfl other
  | _ => rfl

end Source

/-- The sources that a loaded store and a document give for a context, in their order. -/
inductive SourcesOf (store : Store) (users : List UserFunction) (options : ListOptions) :
    Context → List Source → Prop
  | ignored : SourcesOf store users options .ignored []
  | topLevel (system : List FunctionEntry) (known : store.systemFunctions = .ok system) :
      SourcesOf store users options .topLevel
        (keywords.map (fun (word, group) => .keyword word group) ++ system.map .primary ++
          if options.includeUserFunctions then users.map .user else [])
  | everyHost (merged system : List FunctionEntry) (indexed : store.merged = .ok merged)
      (known : store.systemFunctions = .ok system) :
      SourcesOf store users options (.extensionCall .all)
        ((if options.enableExtensions then merged.map .primary else []) ++ system.map .demoted)
  | oneHost (host : String) (functions system : List FunctionEntry)
      (listed : store.functionsOfHost host = .ok functions)
      (known : store.systemFunctions = .ok system) :
      SourcesOf store users options (.extensionCall (.host host))
        ((if options.enableExtensions then functions.map .primary else []) ++ system.map .demoted)
  | singleColon : SourcesOf store users options .singleColon [.colon]
  | annotationName :
      SourcesOf store users options .annotationName (annotations.map .annotationInfo)
  | importNamespace (quote : Option Char) (names : List String)
      (known : store.namespaces = .ok names) :
      SourcesOf store users options (.importNamespace quote)
        (names.map fun name => .namespaceName name quote)

/-- A store with a current catalog gives each source one candidate. -/
theorem exists_sourcesOf {store : Store} {loaded : LoadedCatalog}
    (current : store.current = .ok loaded) (context : Context) (users : List UserFunction)
    (options : ListOptions) :
    ∃ sources, SourcesOf store users options context sources ∧
      list context store users options =
        sources.map (Source.candidate options.showNamespaces) := by
  have system : store.systemFunctions = .ok loaded.catalog.system := by
    rw [Store.systemFunctions, current]
    rfl
  rw [list, current]
  cases context with
  | ignored => exact ⟨_, .ignored, rfl⟩
  | topLevel =>
      refine ⟨_, .topLevel _ system, ?_⟩
      simp only [listFor, topLevelList, ofEntries, List.map_append, apply_ite (List.map _),
        List.map_nil, List.map_map]
      rfl
  | extensionCall hosts =>
      cases hosts with
      | all =>
          have merged : store.merged = .ok loaded.merged := by
            rw [Store.merged, current]
            rfl
          refine ⟨_, .everyHost _ _ merged system, ?_⟩
          simp only [listFor, extensionList, extensionEntries, ofEntries, List.map_append,
            apply_ite (List.map _), List.map_nil, List.map_map]
          rfl
      | host name =>
          have listed : store.functionsOfHost name =
              .ok (Catalog.functionsOfHost loaded.catalog.extensions name) := by
            rw [Store.functionsOfHost, current]
            rfl
          refine ⟨_, .oneHost name _ _ listed system, ?_⟩
          simp only [listFor, extensionList, extensionEntries, ofEntries, List.map_append,
            apply_ite (List.map _), List.map_nil, List.map_map]
          rfl
  | singleColon => exact ⟨_, .singleColon, rfl⟩
  | annotationName =>
      refine ⟨_, .annotationName, ?_⟩
      rw [List.map_map]
      rfl
  | importNamespace quote =>
      have names : store.namespaces = .ok loaded.catalog.namespaces := by
        rw [Store.namespaces, current]
        rfl
      refine ⟨_, .importNamespace quote _ names, ?_⟩
      rw [List.map_map]
      rfl

/-! ## The order of the sources -/

/-- The tiers of sources do not decrease. -/
def TiersAscend (sources : List Source) : Prop :=
  sources.Pairwise fun a b => a.tier.number ≤ b.tier.number

def OfTier (tier : SortTier) (sources : List Source) : Prop :=
  ∀ source ∈ sources, source.tier = tier

theorem ofTier_map {α : Type} (make : α → Source) (tier : SortTier)
    (made : ∀ a, (make a).tier = tier) (xs : List α) : OfTier tier (xs.map make) := by
  intro source member
  obtain ⟨a, -, rfl⟩ := List.mem_map.mp member
  exact made a

theorem OfTier.ite {tier : SortTier} {sources : List Source} (same : OfTier tier sources)
    (wanted : Bool) : OfTier tier (if wanted then sources else []) := by
  cases wanted
  · exact List.forall_mem_nil _
  · exact same

theorem OfTier.tiersAscend {tier : SortTier} {sources : List Source}
    (same : OfTier tier sources) : TiersAscend sources := by
  induction sources with
  | nil => exact List.Pairwise.nil
  | cons source rest ih =>
      obtain ⟨first, others⟩ := List.forall_mem_cons.mp same
      refine List.Pairwise.cons ?_ (ih others)
      intro other member
      apply Nat.le_of_eq
      rw [first, others other member]

/-- A block of one tier may follow sources of no greater tier. -/
theorem TiersAscend.append {tier : SortTier} {first second : List Source}
    (ordered : TiersAscend first) (below : ∀ source ∈ first, source.tier.number ≤ tier.number)
    (block : OfTier tier second) : TiersAscend (first ++ second) := by
  refine List.pairwise_append.mpr ⟨ordered, block.tiersAscend, ?_⟩
  intro a early b late
  rw [block b late]
  exact below a early

theorem OfTier.number_le {tier bound : SortTier} {sources : List Source}
    (same : OfTier tier sources) (le : tier.number ≤ bound.number) :
    ∀ source ∈ sources, source.tier.number ≤ bound.number := by
  intro source member
  rw [same source member]
  exact le

theorem SourcesOf.tiersAscend {store : Store} {users : List UserFunction} {options : ListOptions}
    {context : Context} {sources : List Source}
    (made : SourcesOf store users options context sources) : TiersAscend sources := by
  have extended (functions system : List FunctionEntry) : TiersAscend
      ((if options.enableExtensions then functions.map Source.primary else []) ++
        system.map Source.demoted) := by
    have offered := (ofTier_map Source.primary .primary (fun _ => rfl) functions).ite
      options.enableExtensions
    have demoted := ofTier_map Source.demoted .demoted (fun _ => rfl) system
    exact offered.tiersAscend.append (offered.number_le (by decide)) demoted
  cases made with
  | ignored => exact List.Pairwise.nil
  | topLevel system known =>
      have words := ofTier_map (fun (word, group) => Source.keyword word group) .static
        (fun _ => rfl) keywords
      have catalog := ofTier_map Source.primary .primary (fun _ => rfl) system
      have declared := (ofTier_map Source.user .user (fun _ => rfl) users).ite
        options.includeUserFunctions
      refine (words.tiersAscend.append (words.number_le (by decide)) catalog).append ?_ declared
      intro source member
      rcases List.mem_append.mp member with member | member
      · exact words.number_le (by decide) source member
      · exact catalog.number_le (by decide) source member
  | everyHost merged system indexed known => exact extended merged system
  | oneHost host functions system listed known => exact extended functions system
  | singleColon => exact List.pairwise_singleton _ _
  | annotationName =>
      exact (ofTier_map Source.annotationInfo .static (fun _ => rfl) annotations).tiersAscend
  | importNamespace quote names known =>
      exact (ofTier_map (fun name => Source.namespaceName name quote) .static (fun _ => rfl)
        names).tiersAscend

/-- The colon hint stands alone. -/
theorem SourcesOf.colon_alone {store : Store} {users : List UserFunction} {options : ListOptions}
    {context : Context} {sources : List Source}
    (made : SourcesOf store users options context sources) (hint : .colon ∈ sources) :
    sources = [.colon] := by
  cases made with
  | singleColon => rfl
  | ignored => cases hint
  | topLevel system known =>
      cases options.includeUserFunctions <;> simp at hint
  | everyHost merged system indexed known =>
      cases options.enableExtensions <;> simp at hint
  | oneHost host functions system listed known =>
      cases options.enableExtensions <;> simp at hint
  | annotationName => simp at hint
  | importNamespace quote names known => simp at hint

/-- The candidate is ranked before the other by tier and name. -/
def Precedes (a b : Candidate) : Prop :=
  a.rank.tier.number < b.rank.tier.number ∨
    a.rank.tier = b.rank.tier ∧ octets a.label < octets b.label

theorem precedes_or_le_of_not_precedes {a b : Candidate} (kept : ¬ Precedes b a) :
    a.rank.tier.number < b.rank.tier.number ∨
      a.rank.tier = b.rank.tier ∧ a.label ≤ b.label := by
  obtain ⟨notLower, notBefore⟩ := not_or.mp kept
  rcases Nat.lt_or_eq_of_le (Nat.le_of_not_lt notLower) with lower | same
  · exact .inl lower
  · have tiers := (SortTier.number_eq_iff _ _).mp same
    refine .inr ⟨tiers, String.not_lt.mp ?_⟩
    intro less
    exact notBefore ⟨tiers.symm, (octets_lt_iff _ _).mpr less⟩

theorem SourcesOf.sortText_compares {store : Store} {users : List UserFunction}
    {options : ListOptions} {context : Context} {sources : List Source}
    (made : SourcesOf store users options context sources) (showNamespaces : Bool)
    {a b : Candidate} (first : a ∈ sources.map (Source.candidate showNamespaces))
    (second : b ∈ sources.map (Source.candidate showNamespaces)) :
    (octets a.rank.sortText < octets b.rank.sortText ↔ Precedes a b) ∧
      (a.rank.sortText = b.rank.sortText ↔ a.rank.tier = b.rank.tier ∧ a.label = b.label) := by
  obtain ⟨source, inFirst, rfl⟩ := List.mem_map.mp first
  obtain ⟨other, inSecond, rfl⟩ := List.mem_map.mp second
  by_cases hint : .colon ∈ sources
  · -- the hint is ranked by `:` and shown as `::`, but it is only ever compared with itself
    rw [made.colon_alone hint, List.mem_singleton] at inFirst inSecond
    subst inFirst inSecond
    refine ⟨iff_of_false (List.lt_irrefl _) ?_, by simp⟩
    intro before
    rcases before with less | ⟨-, less⟩
    · exact Nat.lt_irrefl _ less
    · exact List.lt_irrefl _ less
  · have ranked := source.rank_candidate (fun same => hint (same ▸ inFirst)) showNamespaces
    have otherRanked := other.rank_candidate (fun same => hint (same ▸ inSecond)) showNamespaces
    refine ⟨?_, ?_⟩
    · rw [Rank.sortText_lt_iff, Precedes, ranked, otherRanked, source.label_candidate,
        other.label_candidate]
    · rw [source.label_candidate, other.label_candidate, ranked, otherRanked]
      constructor
      · intro same
        have equal := Rank.sortText_inj same
        simpa using equal
      · intro same
        have tiers : source.tier = other.tier := same.1
        rw [tiers, same.2]

/-- A list of a loaded store has one candidate for each source of its context and no others, in the
order of the sources, and its tiers never decrease. The texts of any two ranks in it compare, octet
by octet, as the tiers and then the names, so a client that sorts by them shows the tiers one after
the other and each of them by name. -/
theorem list_ranks_each_source_once (history : List (Disk × Store.Operation)) (store : Store)
    (reached : store = Store.run {} history) (isLoaded : store.isLoaded = true)
    (context : Context) (users : List UserFunction) (options : ListOptions) :
    (∃ sources, SourcesOf store users options context sources ∧
      list context store users options =
        sources.map (Source.candidate options.showNamespaces) ∧
      ∀ source ∈ sources,
        (source.candidate options.showNamespaces).label = source.name ∧
        (source.candidate options.showNamespaces).rank.tier = source.tier) ∧
    (list context store users options).Pairwise
      (fun a b => a.rank.tier.number ≤ b.rank.tier.number) ∧
    (∀ a ∈ list context store users options, ∀ b ∈ list context store users options,
      (octets a.rank.sortText < octets b.rank.sortText ↔ Precedes a b) ∧
      (a.rank.sortText = b.rank.sortText ↔ a.rank.tier = b.rank.tier ∧ a.label = b.label)) ∧
    ∀ shown : List Candidate, shown.Perm (list context store users options) →
      shown.Pairwise (fun a b => ¬ octets b.rank.sortText < octets a.rank.sortText) →
      shown.Pairwise fun a b => a.rank.tier.number < b.rank.tier.number ∨
        a.rank.tier = b.rank.tier ∧ a.label ≤ b.label := by
  obtain ⟨loaded, current⟩ := Store.exists_current reached isLoaded
  obtain ⟨sources, made, listed⟩ := exists_sourcesOf current context users options
  have compares : ∀ a ∈ list context store users options,
      ∀ b ∈ list context store users options,
      (octets a.rank.sortText < octets b.rank.sortText ↔ Precedes a b) ∧
      (a.rank.sortText = b.rank.sortText ↔ a.rank.tier = b.rank.tier ∧ a.label = b.label) := by
    rw [listed]
    intro a first b second
    exact made.sortText_compares options.showNamespaces first second
  refine ⟨⟨sources, made, listed, ?_⟩, ?_, compares, ?_⟩
  · intro source _
    exact ⟨source.label_candidate _, source.tier_candidate _⟩
  · rw [listed, List.pairwise_map]
    refine made.tiersAscend.imp ?_
    intro a b le
    rwa [Source.tier_candidate, Source.tier_candidate]
  · intro shown same sorted
    refine sorted.imp_of_mem ?_
    intro a b first second kept
    rw [(compares b (same.mem_iff.mp second) a (same.mem_iff.mp first)).1] at kept
    exact precedes_or_le_of_not_precedes kept

/-- Two system functions, of which one has a name that starts with a digit. -/
def oddNamesText : String :=
  "\x7b\"generatedAt\":\"\",\"extensions\":\x7b\x7d,\"system\":[" ++
    "\x7b\"name\":\"_z\",\"namespace\":null,\"params\":[],\"async\":false," ++
    "\"primarySync\":false\x7d,\x7b\"name\":\"3_a\",\"namespace\":null,\"params\":[]," ++
    "\"async\":false,\"primarySync\":false\x7d]\x7d"

def oddNames : Catalog :=
  ⟨"", [⟨"_z", none, [0], false, false⟩, ⟨"3_a", none, [0], false, false⟩], []⟩

def oddNamesStore : Store := Store.startedFrom "c.json" oddNames

/-- Sorted by the texts of their ranks, the two functions stand in the other order. -/
theorem oddNames_sorted :
    oddNamesStore.isLoaded = true ∧
      (list (.extensionCall .all) oddNamesStore [] {}).reverse.map Candidate.label =
        ["3_a", "_z"] ∧
      (list (.extensionCall .all) oddNamesStore [] {}).reverse.Pairwise fun a b =>
        a.rank.tier.number < b.rank.tier.number ∨
          a.rank.tier = b.rank.tier ∧ a.label ≤ b.label := by
  have parsed : (Catalog.parse oddNamesText).toOption = some oddNames := by decide +kernel
  have isLoaded : oddNamesStore.isLoaded = true := rfl
  obtain ⟨-, -, -, client⟩ := list_ranks_each_source_once _ oddNamesStore
    (Store.run_oneFile "c.json" oddNamesText (by decide) parsed).symm isLoaded
    (.extensionCall .all) [] {}
  refine ⟨isLoaded, by decide +kernel, client _ (List.reverse_perm _) ?_⟩
  decide +kernel

end Candidate
end FluxonAssist
