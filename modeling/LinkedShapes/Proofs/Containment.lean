import LinkedShapes.Proofs.Listing

/-!
# What a container contains

A store keeps no record of what is in a container: the listing is made of the URLs alone. A URL is the
child of a container if one segment follows the container's URL, with or without a slash after it. So a
container is no child of itself, and where the URLs of containers end in a slash, a URL is the child of
one container at most: of two containers that it starts with, the longer one would have a slash within
what follows the shorter one.

## Main statements

* `isDirectChild_iff_isChild`: the URLs directly below a container.
* `IsChild.container_eq`: a URL is the child of one container at most.
* `Store.listings_partition`: what a container is read to contain, and that this parts the resources.
-/

namespace LinkedShapes.Ldp

open Rdf

/-- The URL is that of the container with one segment after it, which may have a slash at its end. -/
def IsChild (container url : String) : Prop :=
  ∃ segment, segment ≠ "" ∧ '/' ∉ segment.toList ∧
    (url = container ++ segment ∨ url = container ++ segment ++ "/")

section Children

variable {container other url name : String}

/-- A name with a slash at its end names, after a container, a resource directly below it if what stands
before the slash is one segment. -/
theorem isDirectChild_append_slash_iff :
    isDirectChild container (container ++ name ++ "/") = true ↔ name ≠ "" ∧ '/' ∉ name.toList := by
  have split : (container ++ name ++ "/").toList = container.toList ++ (name.toList ++ ['/']) := by
    simp
  have starts : container.toList.isPrefixOf (container ++ name ++ "/").toList = true := by
    rw [List.isPrefixOf_iff_prefix, split]
    exact List.prefix_append _ _
  have below : (container ++ name ++ "/").toList.drop container.toList.length =
      name.toList ++ ['/'] := by
    rw [split, List.drop_left]
  unfold isDirectChild
  rw [starts, below]
  simp

/-- The test for what is directly below a container says that one segment follows it. -/
theorem isDirectChild_iff_isChild : isDirectChild container url = true ↔ IsChild container url := by
  constructor
  · intro child
    obtain ⟨name, rfl⟩ := exists_append_of_isDirectChild child
    by_cases slash : name.toList.getLast? = some '/'
    · obtain ⟨before, split⟩ := List.getLast?_eq_some_iff.1 slash
      obtain rfl : name = String.ofList before ++ "/" := by
        rw [← String.toList_inj, split]
        simp
      rw [← String.append_assoc] at child ⊢
      obtain ⟨filled, segment⟩ := isDirectChild_append_slash_iff.1 child
      exact ⟨String.ofList before, filled, segment, .inr rfl⟩
    · obtain ⟨filled, segment⟩ := (isDirectChild_append_iff slash).1 child
      exact ⟨name, filled, segment, .inl rfl⟩
  · rintro ⟨segment, filled, oneSegment, rfl | rfl⟩
    · exact isDirectChild_append filled oneSegment
    · exact isDirectChild_append_slash_iff.2 ⟨filled, oneSegment⟩

instance : Decidable (IsChild container url) := decidable_of_iff _ isDirectChild_iff_isChild

/-- What follows a container in the URL of its child is not empty and has no slash but at its end. -/
theorem IsChild.exists_below (child : IsChild container url) :
    ∃ below, url.toList = container.toList ++ below ∧ below ≠ [] ∧ '/' ∉ below.dropLast := by
  obtain ⟨segment, filled, oneSegment, rfl | rfl⟩ := child
  · refine ⟨segment.toList, String.toList_append, ?_, ?_⟩
    · exact fun nothing => filled (String.toList_eq_nil_iff.1 nothing)
    · exact fun slash => oneSegment (List.dropLast_subset _ slash)
  · exact ⟨segment.toList ++ ['/'], by simp, by simp, by simpa using oneSegment⟩

theorem not_isChild_self : ¬ IsChild container container := by
  intro child
  obtain ⟨below, same, filled, -⟩ := child.exists_below
  exact filled (List.self_eq_append_right.1 same)

/-- Of two containers that a URL is the child of, neither is longer than the other. -/
theorem IsChild.eq_nil_of_append {rest : List Char} (child : IsChild container url)
    (again : IsChild other url) (longer : other.toList = container.toList ++ rest)
    (slashed : other.toList.getLast? = some '/') : rest = [] := by
  obtain ⟨below, split, -, noSlash⟩ := child.exists_below
  obtain ⟨below', split', filled, -⟩ := again.exists_below
  have shared : below = rest ++ below' := by
    rw [split', longer, List.append_assoc] at split
    exact (List.append_cancel_left split).symm
  by_contra nonempty
  -- the slash at the end of the longer one would stand within what follows the shorter one
  rw [longer, List.getLast?_append_of_ne_nil _ nonempty] at slashed
  rw [shared, List.dropLast_append_of_ne_nil filled] at noSlash
  exact noSlash (List.mem_append_left _ (List.mem_of_getLast? slashed))

/-- A URL is the child of one container at most, if the URLs of containers end in a slash. -/
theorem IsChild.container_eq (child : IsChild container url) (again : IsChild other url)
    (slashed : container.toList.getLast? = some '/') (slashed' : other.toList.getLast? = some '/') :
    other = container := by
  obtain ⟨below, split, -, -⟩ := child.exists_below
  obtain ⟨below', split', -, -⟩ := again.exists_below
  have starts : container.toList <+: url.toList := split ▸ List.prefix_append _ _
  have starts' : other.toList <+: url.toList := split' ▸ List.prefix_append _ _
  rw [← String.toList_inj]
  obtain ⟨rest, longer⟩ | ⟨rest, longer⟩ := List.prefix_or_prefix_of_prefix starts starts'
  · rw [← longer, child.eq_nil_of_append again longer.symm slashed', List.append_nil]
  · rw [← longer, again.eq_nil_of_append child longer.symm slashed, List.append_nil]

end Children

namespace Store

variable {store : Store} {container : String} {listing : Graph}

/-- A container is read to contain what its own document says it does, and its children. -/
theorem mem_listing_iff (listed : store.containerGraph container = .ok listing) {triple : Triple}
    (contains : triple.predicate = Ldp.contains) :
    triple ∈ listing ↔ triple ∈ store.documentOrEmpty container ∨
      ∃ url, (url ∈ store.documentUrls ∨ url ∈ store.containers) ∧ IsChild container url ∧
        triple = containment container url := by
  have noType (cls : String) : triple ≠ Graph.typing (.iri container) cls := by
    rintro rfl
    have differ : RdfSyntax.type ≠ Ldp.contains := by decide
    exact differ contains
  have children : (∃ child ∈ store.children container, containment container child = triple) ↔
      ∃ url, (url ∈ store.documentUrls ∨ url ∈ store.containers) ∧ IsChild container url ∧
        triple = containment container url :=
    exists_congr fun url => by
      rw [mem_children, isDirectChild_iff_isChild, and_assoc, eq_comm]
  rw [mem_containerGraph listed, children]
  simp only [noType, false_or]

/-- A container whose URL ends in a slash is read to contain what its own document says it does, and the
documents and containers whose URL is its own with one segment after it. It is not among them, and none
of them is below another container so. -/
theorem listings_partition (there : container ∈ store.containers)
    (slashed : container.toList.getLast? = some '/')
    (downloaded : (client.download container store).1 = .ok listing) :
    (∀ triple : Triple, triple.predicate = Ldp.contains →
      (triple ∈ listing ↔ triple ∈ store.documentOrEmpty container ∨
        ∃ url, (url ∈ store.documentUrls ∨ url ∈ store.containers) ∧ IsChild container url ∧
          triple = containment container url)) ∧
    (∀ url, IsChild container url → url ≠ container) ∧
    ∀ url other, other.toList.getLast? = some '/' → IsChild container url → IsChild other url →
      other = container := by
  have listed : store.containerGraph container = .ok listing := by
    rw [← graphOf_of_isContainer (decide_eq_true there)]
    exact downloaded
  refine ⟨fun triple contains => mem_listing_iff listed contains, ?_, ?_⟩
  · rintro url child rfl
    exact not_isChild_self child
  · exact fun url other slashed' child again => child.container_eq again slashed slashed'

/-- A container with a document at its own URL, a document and a container in it, and a document in the
inner one. -/
def nested : Store :=
  ((((empty.addContainer "http://example.org/a/").addContainer "http://example.org/a/b/").put
    "http://example.org/a/" Graph.empty).put "http://example.org/a/x" Graph.empty).put
    "http://example.org/a/b/y" Graph.empty

/-- The outer container is read to contain the document and the inner container, but neither itself nor
the document in the inner one. -/
theorem listings_partition_nested :
    ∃ listing, (client.download "http://example.org/a/" nested).1 = .ok listing ∧
      ∀ url, containment "http://example.org/a/" url ∈ listing ↔
        url = "http://example.org/a/x" ∨ url = "http://example.org/a/b/" := by
  have there : "http://example.org/a/" ∈ nested.containers := by decide
  obtain ⟨listing, listed⟩ : ∃ listing, nested.containerGraph "http://example.org/a/" = .ok listing :=
    exists_containerGraph_iff.2 (by decide +kernel)
  have downloaded : (client.download "http://example.org/a/" nested).1 = .ok listing := by
    rw [← listed]
    exact graphOf_of_isContainer (decide_eq_true there)
  obtain ⟨contains, -, -⟩ := listings_partition there (by decide) downloaded
  refine ⟨listing, downloaded, fun url => ?_⟩
  have children : ∀ url ∈ nested.documentUrls ++ nested.containers,
      IsChild "http://example.org/a/" url ↔
        url = "http://example.org/a/x" ∨ url = "http://example.org/a/b/" := by decide +kernel
  rw [contains _ rfl]
  constructor
  · rintro (own | ⟨url, held, child, same⟩)
    · exact absurd own (Graph.not_mem_empty _)
    · obtain rfl : _ = url := by simpa [containment] using same
      exact (children _ (List.mem_append.2 held)).1 child
  · intro listed
    have held : url ∈ nested.documentUrls ++ nested.containers := by
      obtain rfl | rfl := listed <;> decide +kernel
    exact .inr ⟨url, List.mem_append.1 held, (children url held).2 listed, rfl⟩

end Store

end LinkedShapes.Ldp
