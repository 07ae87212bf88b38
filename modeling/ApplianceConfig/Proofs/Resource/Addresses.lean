import ApplianceConfig.Operations.PendingChanges
import ApplianceConfig.Proofs.Session.Runs

/-!
# Addresses of the known resources

What a template is filled to starts with the text before its first placeholder
(`Template.opening_prefix_of_fill`). Where the templates of the known resources open in
ways in which an address does not, no parameters and no id can make a request for a known
resource go to that address (`Endpoint.Known.target_append_ne`). So no read of one addresses
the deployment (`Endpoint.Known.readsElsewhere`), and no change of one the list of what is
staged (`Endpoint.Known.target_ne_listUri`).
-/

set_option autoImplicit false

namespace ApplianceConfig

/-- An address whose target is not the deployment. -/
def ReadsElsewhere (uri : String) : Prop := Client.target uri ≠ PendingChanges.deployUri

theorem readsElsewhere_of_ne {uri : String} (different : uri ≠ PendingChanges.deployUri)
    (slashed : "/" ++ uri ≠ PendingChanges.deployUri) : ReadsElsewhere uri := by
  rw [ReadsElsewhere, Client.target]
  split
  · exact different
  · exact slashed

/-! ## The opening of a template -/

namespace Template

/-- The text of a template before its first placeholder. -/
def opening : List Segment → List Char
  | .literal c :: rest => c :: opening rest
  | _ => []

/-- A filled template starts with its opening. -/
theorem opening_prefix_of_fill {template : String} {parameters : Parameters} {id : Option String} :
    ∀ {segments : List Segment} {text : List Char},
      fill template parameters id segments = .ok text → opening segments <+: text
  | [], _, _ => List.nil_prefix
  | .placeholder _ :: _, _, _ => List.nil_prefix
  | .unterminated :: _, _, _ => List.nil_prefix
  | .literal c :: rest, text, filled => by
      rw [fill, Call.map_eq_ok_iff] at filled
      obtain ⟨tail, remainder, rfl⟩ := filled
      exact List.cons_prefix_cons.mpr ⟨rfl, opening_prefix_of_fill remainder⟩

/-- Whether a template opens with a slash and in a way in which an address does not. -/
def opensApart (address template : String) : Bool :=
  let start := opening (segments template)
  start.head? == some '/' && !start.isPrefixOf address.toList

/-- **What a template with such an opening is filled to is not that address**, and neither is what
starts with it. -/
theorem target_append_ne_of_expand {address template uri : String} {parameters : Parameters}
    {id : Option String} (apart : opensApart address template = true)
    (expanded : expand template parameters id = .ok uri) (rest : String) :
    Client.target (uri ++ rest) ≠ address := by
  simp only [opensApart, Bool.and_eq_true, beq_iff_eq, Bool.not_eq_true'] at apart
  obtain ⟨slash, differs⟩ := apart
  rw [expand, Call.map_eq_ok_iff] at expanded
  obtain ⟨text, filled, rfl⟩ := expanded
  have starts : opening (segments template) <+: (String.ofList text ++ rest).toList := by
    rw [String.toList_append, String.toList_ofList]
    exact (opening_prefix_of_fill filled).trans (List.prefix_append text rest.toList)
  have slashed : (String.ofList text ++ rest).startsWith "/" = true := by
    refine String.startsWith_string_iff.mpr (List.IsPrefix.trans ?_ starts)
    obtain ⟨others, opened⟩ := List.head?_eq_some_iff.mp slash
    exact ⟨others, opened.symm⟩
  rw [Client.target, if_pos slashed]
  rintro rfl
  rw [← List.isPrefixOf_iff_prefix, differs] at starts
  cases starts

end Template

/-! ## The known resources -/

namespace Endpoint

/-- The endpoint of a known resource, with any parameters. -/
def Known (endpoint : Endpoint) : Prop := ∃ key, Registry.find? key = some endpoint.definition

/-- An endpoint whose list or document does not lie at the deployment. -/
def ListsElsewhere (endpoint : Endpoint) : Prop :=
  ∀ uri, endpoint.collectionUri = .ok uri → ApplianceConfig.ReadsElsewhere uri

/-- An endpoint of which no address is the deployment. -/
structure ReadsElsewhere (endpoint : Endpoint) : Prop where
  collection : endpoint.ListsElsewhere
  item : ∀ id uri, endpoint.itemUri id = .ok uri → ApplianceConfig.ReadsElsewhere uri

theorem lookup_known {key : String} {parameters : Parameters} {endpoint : Endpoint}
    (found : lookup key parameters = .ok endpoint) : endpoint.Known := by
  rw [lookup] at found
  split at found
  case h_1 definition known =>
    obtain rfl : (⟨key, definition, parameters⟩ : Endpoint) = endpoint := by injection found
    exact ⟨key, known⟩
  case h_2 => cases found

/-- **What starts with an address of a known resource is not an address** that the templates of the
known resources open apart from. -/
theorem Known.target_append_ne {address : String} (apart : ∀ entry ∈ Registry.entries,
      Template.opensApart address entry.2.uri = true ∧
        ∀ template ∈ entry.2.itemUri, Template.opensApart address template = true)
    {endpoint : Endpoint} (known : endpoint.Known) {uri : String}
    (written : endpoint.collectionUri = .ok uri ∨ ∃ id, endpoint.itemUri id = .ok uri)
    (rest : String) : Client.target (uri ++ rest) ≠ address := by
  obtain ⟨key, found⟩ := known
  obtain ⟨before, after, entries, -⟩ := List.lookup_eq_some_iff.mp found
  have member : (key, endpoint.definition) ∈ Registry.entries := by
    rw [entries]
    simp
  obtain ⟨collection, item⟩ := apart _ member
  rcases written with expanded | ⟨id, expanded⟩
  · exact Template.target_append_ne_of_expand collection expanded rest
  · rw [itemUri] at expanded
    cases found : endpoint.definition.itemUri with
    | some template =>
        rw [found] at expanded
        exact Template.target_append_ne_of_expand (item template found) expanded rest
    | none =>
        rw [found] at expanded
        obtain ⟨base, expandedBase, rfl⟩ := Call.map_eq_ok_iff.mp expanded
        rw [String.append_assoc, String.append_assoc]
        exact Template.target_append_ne_of_expand collection expandedBase _

/-- What starts with an address of a known resource does not address the deployment. -/
theorem Known.readsElsewhere_append {endpoint : Endpoint} (known : endpoint.Known) {uri : String}
    (written : endpoint.collectionUri = .ok uri ∨ ∃ id, endpoint.itemUri id = .ok uri)
    (rest : String) : ApplianceConfig.ReadsElsewhere (uri ++ rest) :=
  known.target_append_ne (by decide) written rest

/-- No read of a known resource addresses the deployment. -/
theorem Known.readsElsewhere {endpoint : Endpoint} (known : endpoint.Known) :
    endpoint.ReadsElsewhere := by
  refine ⟨fun uri expanded => ?_, fun id uri expanded => ?_⟩
  · simpa using known.readsElsewhere_append (Or.inl expanded) ""
  · simpa using known.readsElsewhere_append (Or.inr ⟨id, expanded⟩) ""

/-- **No address of a known resource is that of the list of staged changes**, for the deployment
lies below it. -/
theorem Known.target_ne_listUri {endpoint : Endpoint} (known : endpoint.Known) {uri : String}
    (address : endpoint.collectionUri = .ok uri ∨ ∃ id, endpoint.itemUri id = .ok uri) :
    Client.target uri ≠ PendingChanges.listUri := by
  intro same
  refine known.readsElsewhere_append address "/deploy" ?_
  rw [Client.target] at same
  split at same
  · subst same
    exact if_pos (String.startsWith_string_iff.mpr (by decide))
  · -- Without its slash the address is known as well.
    obtain rfl : uri = "isam/pending_changes" := by
      have sameText := congrArg String.toList same
      rw [String.toList_append] at sameText
      have sameTail : '/' :: uri.toList = '/' :: "isam/pending_changes".toList := sameText
      exact String.toList_inj.mp (List.cons.inj sameTail).2
    exact if_neg (by rw [String.startsWith_string_iff]; decide)

end Endpoint

end ApplianceConfig
