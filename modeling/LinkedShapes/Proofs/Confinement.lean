import LinkedShapes.Proofs.Calls
import LinkedShapes.Proofs.Instance

/-!
# Where the changes of an entity go

An entity that is looked up to be changed is changed in the resource that it was looked up in, and in
nothing else: that is the document of its identifier. Any number of changes, removals among them and
those that fail included, leaves every other document and every other container as it was. Whether
the changes stay in the container where the instances of the class are kept is thereby a question of
the identifier alone. It is not checked: an identifier may name an entity that the container itself
describes, and the removal of that entity removes the container.

## Main statements

* `Store.SameBut`: what two stores have in common that differ at one URL at most.
* `Request.Alters.settle_sameBut`, `scanl_settle_sameBut`: what one change, and what any sequence of
  changes of an entity leaves as it was.
* `mutate_changes_only`: where the changes of an entity go that was looked up below a container.
* `mutate_removes_container`: a removal that takes the container with it.
-/

namespace LinkedShapes.Ldp

open Rdf

/-- The call patches or removes the resource at a URL. -/
def Call.EditsAt (url : String) (call : Call) : Prop :=
  call.url = url ∧
    ((∃ patch, call.operation = .write (.patch patch)) ∨ call.operation = .write .delete)

namespace Store

/-- The stores differ in the resource at a URL at most, which was only patched or removed. -/
structure SameBut (url : String) (before after : Store) : Prop where
  /-- The other documents are the same. -/
  documents : ∀ other, other ≠ url → after.document? other = before.document? other
  /-- The other containers are the same. -/
  containers : ∀ other, other ≠ url → (other ∈ after.containers ↔ other ∈ before.containers)
  /-- No container was made. -/
  unmade : url ∈ after.containers → url ∈ before.containers
  /-- Each change between them was made at the URL. -/
  writes : ∃ made, after.writes = before.writes ++ made ∧ ∀ call ∈ made, call.EditsAt url

variable {store before between after : Store} {url other : String} {change : Write}

namespace SameBut

theorem of_eq (documents : after.documents = before.documents)
    (containers : after.containers = before.containers) (writes : after.writes = before.writes) :
    before.SameBut url after where
  documents other _ := by rw [document?, documents, document?]
  containers other _ := by rw [containers]
  unmade h := containers ▸ h
  writes := ⟨[], by rw [writes, List.append_nil], by simp⟩

theorem refl (store : Store) : store.SameBut url store := of_eq rfl rfl rfl

theorem trans (first : before.SameBut url between) (second : between.SameBut url after) :
    before.SameBut url after where
  documents other h := (second.documents other h).trans (first.documents other h)
  containers other h := (second.containers other h).trans (first.containers other h)
  unmade h := first.unmade (second.unmade h)
  writes := by
    obtain ⟨made, added, edits⟩ := first.writes
    obtain ⟨made', added', edits'⟩ := second.writes
    refine ⟨made ++ made', by rw [added', added, List.append_assoc], fun call h => ?_⟩
    exact (List.mem_append.1 h).elim (edits call) (edits' call)

/-- Nothing outside a set of URLs was changed if the URL is in the set. -/
theorem documents_outside {inside : String → Bool} (same : before.SameBut url after)
    (h : inside url = true) (other : String) (outside : inside other = false) :
    after.document? other = before.document? other := by
  refine same.documents other fun equal => ?_
  rw [equal, h] at outside
  cases outside

/-- No container was removed if there is none at the URL. -/
theorem containers_iff (same : before.SameBut url after) (h : url ∉ before.containers)
    (other : String) : other ∈ after.containers ↔ other ∈ before.containers := by
  by_cases equal : other = url
  · subst equal
    exact ⟨same.unmade, fun there => absurd there h⟩
  · exact same.containers other equal

end SameBut

theorem writes_note_write :
    (store.note url (.write change)).writes = store.writes ++ [⟨url, .write change⟩] := by
  simp [writes, note, Call.isWrite]

theorem document?_remove_of_ne (different : other ≠ url) :
    ((store.documents.filter (·.1 ≠ url)).find? (·.1 = other)).map Prod.snd =
      store.document? other := by
  rw [List.find?_filter, document?]
  congr 2
  funext entry
  by_cases h : entry.1 = other
  · simp [h, different]
  · simp [h]

theorem sameBut_note_write (edits : Call.EditsAt url ⟨url, .write change⟩) :
    store.SameBut url (store.note url (.write change)) where
  documents _ _ := rfl
  containers _ _ := Iff.rfl
  unmade h := h
  writes := ⟨[⟨url, .write change⟩], writes_note_write, by simpa using edits⟩

theorem sameBut_put {graph : Graph} : store.SameBut url (store.put url graph) where
  documents other h := by rw [document?_put, if_neg (Ne.symm h)]
  containers _ _ := Iff.rfl
  unmade h := h
  writes := ⟨[], (List.append_nil _).symm, by simp⟩

theorem sameBut_patch (p : Patch) : store.SameBut url (store.patch url p).2 := by
  obtain ⟨-, made⟩ | ⟨missing, -, -, refused⟩ := patch_cases store url p
  · rw [made]
    exact sameBut_put
  · rw [refused]
    exact sameBut_put

theorem sameBut_remove : store.SameBut url (store.remove url).2 := by
  unfold remove
  split
  · constructor
    case documents =>
      intro other different
      exact document?_remove_of_ne different
    case containers =>
      intro other different
      simp [different]
    case unmade =>
      intro there
      exact (List.mem_filter.1 there).1
    case writes => exact ⟨[], (List.append_nil _).symm, by simp⟩
  · exact SameBut.refl store

/-- A patch and a removal change the resource at their URL only, whether they are accepted or not. -/
theorem client_keeps_sameBut (before : Store) (url : String) :
    client.Keeps (Call.EditsAt url) (before.SameBut url) where
  kind _ _ edits _ := by
    rcases edits.2 with ⟨_, h⟩ | h <;> cases h
  download _ _ edits _ := by
    rcases edits.2 with ⟨_, h⟩ | h <;> cases h
  write at' change store edits same := by
    obtain rfl : at' = url := edits.1
    refine same.trans ((sameBut_note_write edits).trans ?_)
    rcases edits.2 with ⟨patch, h⟩ | h
    · obtain rfl : change = .patch patch := Operation.write.inj h
      exact sameBut_patch patch
    · obtain rfl : change = .delete := Operation.write.inj h
      exact sameBut_remove

end Store

end LinkedShapes.Ldp

namespace LinkedShapes.Resolution

open Rdf Ldp Schema Attempt

/-! ### Sequences of changes -/

/-- The field changes the entity of a context or removes it. -/
structure Request.Alters (request : Request) (context : Context) : Prop where
  /-- The field belongs to the entity of the context. -/
  parent : request.parent = some context
  /-- The field asks for one of these changes. -/
  mutates : request.Mutates .update ∨ (∃ change, request.Mutates (.relation change)) ∨
    request.Mutates .delete

section Sequences

variable {world : World Store} {resolver : Resolver} {request : Request} {context : Context}

/-- All the calls of a change patch or remove the document of the entity. -/
theorem Request.Alters.makes (alters : request.Alters context) :
    (resolver.resolve request).Makes (Call.EditsAt context.url) := by
  have patches (patch : Patch) : Call.EditsAt context.url ⟨context.url, .write (.patch patch)⟩ :=
    ⟨rfl, Or.inl ⟨patch, rfl⟩⟩
  rcases alters.mutates with updates | changes | deletes
  · exact Request.Edits.makes ⟨alters.parent, Or.inl updates⟩ patches
  · exact Request.Edits.makes ⟨alters.parent, Or.inr changes⟩ patches
  · rw [resolve_of_mutates deletes]
    exact makes_delete alters.parent patches ⟨rfl, Or.inr rfl⟩

/-- One change leaves all but the document of the entity as it was, accepted or not. -/
theorem Request.Alters.settle_sameBut (resolver : Resolver) (alters : request.Alters context) :
    world.resources.SameBut context.url
      (resolver.settle Store.client world request).resources :=
  alters.makes.runIn_keeps_resources (Store.client_keeps_sameBut world.resources context.url)
    (Store.SameBut.refl world.resources)

/-- So does a sequence of changes, after each of them. -/
theorem scanl_settle_sameBut {requests : List Request}
    (alters : ∀ request ∈ requests, request.Alters context) :
    ∀ last ∈ requests.scanl (resolver.settle Store.client) world,
      world.resources.SameBut context.url last.resources := by
  induction requests generalizing world with
  | nil =>
    intro last h
    rw [List.scanl_nil, List.mem_singleton] at h
    rw [h]
    exact Store.SameBut.refl _
  | cons request rest ih =>
    intro last h
    rw [List.scanl_cons, List.mem_cons] at h
    rcases h with rfl | h
    · exact Store.SameBut.refl _
    · have first : world.resources.SameBut context.url
          (resolver.settle Store.client world request).resources :=
        (alters request List.mem_cons_self).settle_sameBut resolver
      exact first.trans (ih (fun r hr => alters r (List.mem_cons_of_mem _ hr)) last h)

end Sequences

/-! ### Entities that are looked up to be changed -/

section LookUps

variable {σ : Type} {client : Client σ} {world after : World σ} {resolver : Resolver}
  {request : Request} {cls target iri : String} {result : Resolved}

theorem identifierArgument_eq_ok_iff :
    identifierArgument request target = .ok iri ↔
      ∃ text, request.argument? identifierField = some (.string text) ∧
        absolute text target = iri ∧ Iri.isAbsolute iri = true := by
  unfold identifierArgument
  cases request.argument? identifierField with
  | none => simp
  | some value => simp [parseIdentifier_eq_ok_iff]

theorem returns_mutate_iff (ofClass : resolver.classOf request.field.type.name = .ok cls)
    (kept : resolver.target cls = .ok target) :
    (mutate resolver request).Returns client world result after ↔
      ∃ iri, identifierArgument request target = .ok iri ∧
        ∃ found, (lookUpInstance cls target (.iri iri)).Returns client world found after ∧
          result = .ofContext? found := by
  refine (returns_lift_bind_of_eq ofClass).trans ((returns_lift_bind_of_eq kept).trans ?_)
  exact returns_lift_bind.trans (exists_congr fun iri => and_congr_right fun _ => returns_bind_pure)

end LookUps

/-- An entity that was looked up below a container is changed in the document of its identifier only,
by whatever sequence of changes. So no document outside the container is changed if the document of the
identifier is directly below it, and no container is removed if this document is not one. -/
theorem mutate_changes_only {world after : World Store} {resolver : Resolver} {request : Request}
    {cls target : String} {context : Context} (mutates : request.Mutates .mutate)
    (ofClass : resolver.classOf request.field.type.name = .ok cls)
    (kept : resolver.target cls = .ok target)
    (container : world.resources.isContainer target = true)
    (ran : (resolver.resolve request).Returns Store.client world (.node context) after) :
    ∃ text, request.argument? identifierField = some (.string text) ∧
      context.subject = some (.iri (absolute text target)) ∧ context.kind = .container ∧
      context.url = documentUrl (absolute text target) ∧
      ∀ requests : List Request, (∀ request ∈ requests, request.Alters context) →
        ∀ last ∈ requests.scanl (resolver.settle Store.client) after,
          world.resources.SameBut context.url last.resources ∧
          (isDirectChild target context.url = true → ∀ url, isDirectChild target url = false →
            last.resources.document? url = world.resources.document? url) ∧
          (context.url ∉ world.resources.containers → ∀ url,
            url ∈ last.resources.containers ↔ url ∈ world.resources.containers) := by
  rw [resolve_of_mutates mutates] at ran
  obtain ⟨iri, named, found, ran, answer⟩ := (returns_mutate_iff ofClass kept).1 ran
  obtain ⟨text, given, rfl, -⟩ := identifierArgument_eq_ok_iff.1 named
  cases found with
  | none => cases answer
  | some found =>
    obtain rfl : context = found := Resolved.node.inj answer
    obtain ⟨kind, graph, isKind, -, -, rfl, rfl⟩ := returns_lookUpInstance_some_iff.1 ran
    obtain rfl : kind = .container :=
      Except.ok.inj (isKind.symm.trans (Store.kindOf_of_isContainer container))
    refine ⟨text, given, rfl, rfl, rfl, fun requests alters last reached => ?_⟩
    -- looking the entity up changed nothing
    have looked : world.resources.SameBut (documentUrl (absolute text target))
        ((world.resources.note target .kind).note (documentUrl (absolute text target)) .download) :=
      Store.SameBut.of_eq rfl rfl (by simp [Store.writes, Store.note, Call.isWrite])
    have same := looked.trans (scanl_settle_sameBut alters last reached)
    exact ⟨same, same.documents_outside, same.containers_iff⟩

open AddressBook

/-- The look-up of a contact to change. -/
def lookUpOf (identifier : String) : Request :=
  field mutationType "mutateContact" [(identifierField, .string identifier)] none

/-- The context of a contact that was looked up in the document of its identifier. -/
def Context.lookedUp (iri : String) (ref : GraphRef) : Context where
  subject := some (.iri iri)
  graph := ref
  kind := .container
  url := documentUrl iri

/-- The contact whose document it is, looked up. -/
def adaLookedUp : Context := .lookedUp "http://example.org/contacts/ada#ada" 1

/-- The removal of a contact that was looked up. -/
def removalOf (context : Context) : Request := field "ContactMutation" "delete" [] (some context)

/-- The removal of a contact who is in the container, made twice, leaves all but the document of the
contact as it was. -/
theorem mutate_changes_only_ada :
    isDirectChild AddressBook.container adaLookedUp.url = true ∧ ∀ last ∈ [removalOf adaLookedUp, removalOf adaLookedUp].scanl
        (resolver.settle Store.client) (resolver.settle Store.client stored (lookUpOf "ada#ada")),
      stored.resources.SameBut document last.resources ∧
      (∀ url, isDirectChild AddressBook.container url = false →
        last.resources.document? url = stored.resources.document? url) ∧
      ∀ url, url ∈ last.resources.containers ↔ url ∈ stored.resources.containers := by
  have mutates : (lookUpOf "ada#ada").Mutates .mutate := ⟨rfl, rfl, by decide, rfl⟩
  have ran : (resolver.resolve (lookUpOf "ada#ada")).Returns Store.client stored
      (.node adaLookedUp) (resolver.settle Store.client stored (lookUpOf "ada#ada")) := rfl
  have child : isDirectChild AddressBook.container adaLookedUp.url = true := by decide
  obtain ⟨text, -, -, -, -, changes⟩ :=
    mutate_changes_only mutates (show resolver.classOf _ = .ok person from rfl)
      (show resolver.target person = .ok AddressBook.container from rfl) rfl ran
  have alters : ∀ request ∈ [removalOf adaLookedUp, removalOf adaLookedUp],
      request.Alters adaLookedUp := by
    intro request h
    obtain rfl : request = removalOf adaLookedUp := by simpa using h
    exact ⟨rfl, Or.inr (Or.inr ⟨rfl, rfl, by decide, rfl⟩)⟩
  refine ⟨child, fun last reached => ?_⟩
  obtain ⟨same, documents, containers⟩ := changes _ alters last reached
  exact ⟨same, documents child, containers (by decide)⟩

/-- The container of the contacts, which describes its owner as a contact. -/
def owned : World Store where
  resources := (Store.empty.addContainer AddressBook.container).addTriples AddressBook.container
    [Graph.typing (.iri "http://example.org/contacts/#owner") person]
  names := { draw := fun _ => 0 }

/-- The owner of the contacts, looked up. -/
def owner : Context := .lookedUp "http://example.org/contacts/#owner" 0

/-- The owner of the contacts is looked up in the container itself, which is not below the container
and is a container; the removal of the owner removes it. -/
theorem mutate_removes_container :
    (resolver.resolve (lookUpOf "#owner")).Returns Store.client owned (.node owner)
        (resolver.settle Store.client owned (lookUpOf "#owner")) ∧
      isDirectChild AddressBook.container owner.url = false ∧
      owner.url.toList.getLast? = some '/' ∧
      owned.resources.isContainer AddressBook.container = true ∧
      ∃ removed last,
        (resolver.resolve (removalOf owner)).Returns Store.client
          (resolver.settle Store.client owned (lookUpOf "#owner")) removed last ∧
        last.resources.isContainer AddressBook.container = false :=
  ⟨rfl, by decide, by decide, rfl, _, _, rfl, rfl⟩

end LinkedShapes.Resolution
