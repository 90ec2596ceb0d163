import LinkedShapes.Ldp.Patch
import LinkedShapes.Proofs.TermText

/-!
# What a patch document tells

A patch is sent as a text. Each term in it ends where it can be told from what follows: an IRI at its
bracket, the value of a literal at its quote, a label or a language tag at the next blank. So each triple
is read off the text in turn, up to the brace that ends its block, and the two blocks are told apart by
their predicates. What the values of literals are does not matter, as they may hold the text of a whole
block.

## Main statements

* `Triple.Delimited`: IRIs, labels and tags do not hold the character that ends them.
* `Term.text_append_inj`, `Triple.text_append_inj`: a term and a triple are read off the text they start.
* `Patch.block_append_inj`: so is the block of a list, where no other block of its predicate follows.
* `Patch.text_tells_apart`: two patches have the same document only if they have the same lists.
-/

namespace LinkedShapes.Rdf

/-! ### Terms and what follows them -/

/-- What stands before a character and after it is known where the character does not stand earlier. -/
theorem append_cons_inj {stop : Char} {first other rest tail : List Char} (absent : stop ∉ first)
    (absent' : stop ∉ other) (same : first ++ stop :: rest = other ++ stop :: tail) :
    first = other ∧ rest = tail := by
  induction first generalizing other with
  | nil =>
    cases other with
    | nil => exact ⟨rfl, (List.cons.inj same).2⟩
    | cons c other => exact absurd ((List.cons.inj same).1 ▸ List.mem_cons_self) absent'
  | cons c first ih =>
    cases other with
    | nil => exact absurd ((List.cons.inj same).1 ▸ List.mem_cons_self) absent
    | cons d other =>
      obtain ⟨rfl, after⟩ := List.cons.inj same
      rw [List.mem_cons, not_or] at absent absent'
      obtain ⟨rfl, rfl⟩ := ih absent.2 absent'.2 after
      exact ⟨rfl, rfl⟩

/-- An IRI does not hold the bracket that ends it, nor a label the blank after it. -/
def Node.Delimited : Node → Prop
  | .iri text => '>' ∉ text.toList
  | .blank label => ' ' ∉ label.toList

instance : DecidablePred Node.Delimited := fun node => by
  cases node <;> unfold Node.Delimited <;> infer_instance

/-- The datatype of a literal does not hold the bracket that ends it, nor its language tag the blank after
it. Its value may hold any character. -/
def Literal.Delimited (literal : Literal) : Prop :=
  '>' ∉ literal.datatype.toList ∧ ∀ tag ∈ literal.language, ' ' ∉ tag.toList

instance : DecidablePred Literal.Delimited := fun _ => inferInstanceAs (Decidable (_ ∧ _))

/-- The IRIs, the label and the language tag of a term do not hold the character that ends them. -/
def Term.Delimited : Term → Prop
  | .node n => n.Delimited
  | .literal l => l.Delimited

instance : DecidablePred Term.Delimited := fun term => by
  cases term <;> unfold Term.Delimited <;> infer_instance

/-- The IRIs, the labels and the language tag of a triple do not hold the character that ends them. -/
def Triple.Delimited (triple : Triple) : Prop :=
  triple.subject.Delimited ∧ '>' ∉ triple.predicate.toList ∧ triple.object.Delimited

instance : DecidablePred Triple.Delimited := fun _ => inferInstanceAs (Decidable (_ ∧ _ ∧ _))

section Terms

variable {rest tail : List Char}

theorem iriText_append_inj {iri other : String} (closed : '>' ∉ iri.toList)
    (closed' : '>' ∉ other.toList)
    (same : (iriText iri).toList ++ rest = (iriText other).toList ++ tail) :
    iri = other ∧ rest = tail := by
  have same : iri.toList ++ '>' :: rest = other.toList ++ '>' :: tail := by
    simpa [iriText] using same
  obtain ⟨text, after⟩ := append_cons_inj closed closed' same
  exact ⟨String.toList_inj.1 text, after⟩

theorem Node.text_append_inj {node other : Node} (delimited : node.Delimited)
    (delimited' : other.Delimited)
    (same : node.text.toList ++ ' ' :: rest = other.text.toList ++ ' ' :: tail) :
    node = other ∧ rest = tail := by
  cases node with
  | iri iri =>
    cases other with
    | iri other =>
      obtain ⟨rfl, after⟩ := iriText_append_inj delimited delimited' same
      exact ⟨rfl, (List.cons.inj after).2⟩
    | blank label => simp [Node.text, iriText] at same
  | blank label =>
    cases other with
    | iri iri => simp [Node.text, iriText] at same
    | blank other =>
      have same : label.toList ++ ' ' :: rest = other.toList ++ ' ' :: tail := by
        simpa [Node.text] using same
      obtain ⟨text, after⟩ := append_cons_inj delimited delimited' same
      exact ⟨congrArg Node.blank (String.toList_inj.1 text), after⟩

/-- The language and the datatype of a literal are read off the text after its quotes. -/
theorem Literal.annotation_append_inj {literal other : Literal} (delimited : literal.Delimited)
    (delimited' : other.Delimited)
    (same : literal.annotation.toList ++ ' ' :: rest = other.annotation.toList ++ ' ' :: tail) :
    literal.language = other.language ∧ literal.datatype = other.datatype ∧ rest = tail := by
  unfold annotation at same
  cases tagged : literal.language with
  | some tag =>
    cases tagged' : other.language with
    | some tag' =>
      have same : tag.toList ++ ' ' :: rest = tag'.toList ++ ' ' :: tail := by
        simpa [tagged, tagged'] using same
      obtain ⟨text, after⟩ := append_cons_inj (delimited.2 tag tagged) (delimited'.2 tag' tagged') same
      have datatype : literal.datatype = other.datatype :=
        (literal.datatype_of_tagged tag tagged).trans (other.datatype_of_tagged tag' tagged').symm
      exact ⟨congrArg some (String.toList_inj.1 text), datatype, after⟩
    | none =>
      simp only [tagged, tagged'] at same
      split at same <;> simp at same
  | none =>
    cases tagged' : other.language with
    | some tag' =>
      simp only [tagged, tagged'] at same
      split at same <;> simp at same
    | none =>
      simp only [tagged, tagged'] at same
      refine ⟨rfl, ?_⟩
      split at same
      · rename_i simple
        split at same
        · rename_i simple'
          exact ⟨simple.trans simple'.symm, by simpa using same⟩
        · simp at same
      · split at same
        · simp at same
        · have same : (iriText literal.datatype).toList ++ ' ' :: rest =
              (iriText other.datatype).toList ++ ' ' :: tail := by simpa using same
          obtain ⟨datatype, after⟩ := iriText_append_inj delimited.1 delimited'.1 same
          exact ⟨datatype, (List.cons.inj after).2⟩

theorem Literal.text_append_inj {literal other : Literal} (delimited : literal.Delimited)
    (delimited' : other.Delimited)
    (same : literal.text.toList ++ ' ' :: rest = other.text.toList ++ ' ' :: tail) :
    literal = other ∧ rest = tail := by
  rw [literal.toList_text, other.toList_text] at same
  simp only [List.cons_append, List.append_assoc, List.cons.injEq, true_and] at same
  obtain ⟨value, same⟩ := escape_append_inj same
  obtain ⟨language, datatype, after⟩ := annotation_append_inj delimited delimited' same
  refine ⟨?_, after⟩
  cases literal
  cases other
  simp_all

/-- A term is read off the text that it stands at the start of, where a blank follows it. -/
theorem Term.text_append_inj {term other : Term} (delimited : term.Delimited)
    (delimited' : other.Delimited)
    (same : term.text.toList ++ ' ' :: rest = other.text.toList ++ ' ' :: tail) :
    term = other ∧ rest = tail := by
  cases term with
  | node node =>
    cases other with
    | node other =>
      obtain ⟨rfl, after⟩ := Node.text_append_inj delimited delimited' same
      exact ⟨rfl, after⟩
    | literal literal =>
      rw [Term.text, Term.text, literal.toList_text] at same
      cases node <;> simp [Node.text, iriText] at same
  | literal literal =>
    cases other with
    | node node =>
      rw [Term.text, Term.text, literal.toList_text] at same
      cases node <;> simp [Node.text, iriText] at same
    | literal other =>
      obtain ⟨rfl, after⟩ := Literal.text_append_inj delimited delimited' same
      exact ⟨rfl, after⟩

/-- So is a triple. -/
theorem Triple.text_append_inj {triple other : Triple} (delimited : triple.Delimited)
    (delimited' : other.Delimited)
    (same : triple.text.toList ++ ' ' :: rest = other.text.toList ++ ' ' :: tail) :
    triple = other ∧ rest = tail := by
  obtain ⟨subject, predicate, object⟩ := triple
  obtain ⟨subject', predicate', object'⟩ := other
  obtain ⟨ofSubject, ofPredicate, ofObject⟩ := delimited
  obtain ⟨ofSubject', ofPredicate', ofObject'⟩ := delimited'
  have same : subject.text.toList ++ ' ' :: ((iriText predicate).toList ++ ' ' ::
        (object.text.toList ++ ' ' :: rest)) =
      subject'.text.toList ++ ' ' :: ((iriText predicate').toList ++ ' ' ::
        (object'.text.toList ++ ' ' :: tail)) := by
    simpa [Triple.text] using same
  obtain ⟨rfl, later⟩ := Node.text_append_inj ofSubject ofSubject' same
  obtain ⟨rfl, last⟩ := iriText_append_inj ofPredicate ofPredicate' later
  obtain ⟨rfl, after⟩ := Term.text_append_inj ofObject ofObject' (List.cons.inj last).2
  exact ⟨rfl, after⟩

end Terms

/-- A triple does not start as the end of a block does. -/
theorem Triple.toList_text_ne (triple : Triple) (rest tail : List Char) :
    triple.text.toList ++ rest ≠ '\x7d' :: tail := by
  obtain ⟨subject, predicate, object⟩ := triple
  cases subject <;> simp [Triple.text, Node.text, iriText]

end LinkedShapes.Rdf

namespace LinkedShapes.Ldp

open Rdf

/-! ### Blocks and documents -/

namespace Patch

/-- The IRIs, the labels and the language tags of a patch do not hold the character that ends them. -/
def Delimited (patch : Patch) : Prop :=
  (∀ triple ∈ patch.inserts, triple.Delimited) ∧ ∀ triple ∈ patch.deletes, triple.Delimited

instance : DecidablePred Patch.Delimited := fun _ => inferInstanceAs (Decidable (_ ∧ _))

/-- The start of a block: its predicate and the brace. -/
def opening (predicate : String) : List Char := (";\n  " ++ iriText predicate ++ " \x7b").toList

/-- The triples of a block, each with a dot after it. -/
def entries (triples : List Triple) : List Char :=
  triples.flatMap fun triple => ' ' :: (triple.text.toList ++ [' ', '.'])

/-- A block that is not empty is its triples between the braces. -/
theorem toList_block (predicate : String) (triples : List Triple) :
    (block predicate triples).toList =
      if triples = [] then [] else opening predicate ++ entries triples ++ [' ', '\x7d'] := by
  have joined : (String.join (triples.map fun triple => " " ++ triple.text ++ " .")).toList =
      entries triples := by
    induction triples with
    | nil => rfl
    | cons triple triples ih => simp [String.join_cons, entries, ih]
  unfold block
  cases triples with
  | nil => rfl
  | cons triple triples =>
    rw [if_neg (by simp), if_neg (by simp), String.toList_append, String.toList_append, joined]
    rfl

section Blocks

variable {triples others : List Triple} {rest tail : List Char} {predicate : String}

/-- The triples of a block are read off it up to the brace. -/
theorem entries_append_inj (delimited : ∀ triple ∈ triples, triple.Delimited)
    (delimited' : ∀ triple ∈ others, triple.Delimited)
    (same : entries triples ++ ' ' :: '\x7d' :: rest = entries others ++ ' ' :: '\x7d' :: tail) :
    triples = others ∧ rest = tail := by
  induction triples generalizing others with
  | nil =>
    cases others with
    | nil => exact ⟨rfl, by simpa [entries] using same⟩
    | cons other others =>
      simp only [entries, List.flatMap_nil, List.nil_append, List.flatMap_cons, List.cons_append,
        List.append_assoc, List.cons.injEq, true_and] at same
      exact absurd same.symm (other.toList_text_ne _ _)
  | cons triple triples ih =>
    cases others with
    | nil =>
      simp only [entries, List.flatMap_nil, List.nil_append, List.flatMap_cons, List.cons_append,
        List.append_assoc, List.cons.injEq, true_and] at same
      exact absurd same (triple.toList_text_ne _ _)
    | cons other others =>
      have same : triple.text.toList ++ ' ' :: '.' :: (entries triples ++ ' ' :: '\x7d' :: rest) =
          other.text.toList ++ ' ' :: '.' :: (entries others ++ ' ' :: '\x7d' :: tail) := by
        simpa [entries] using same
      obtain ⟨rfl, later⟩ := Triple.text_append_inj (delimited _ List.mem_cons_self)
        (delimited' _ List.mem_cons_self) same
      obtain ⟨rfl, after⟩ := ih (fun t mem => delimited t (List.mem_cons_of_mem _ mem))
        (fun t mem => delimited' t (List.mem_cons_of_mem _ mem)) (List.cons.inj later).2
      exact ⟨rfl, after⟩

/-- The list of a block is read off the text that the block stands at the start of, where what follows does
not open another block of its predicate. -/
theorem block_append_inj (delimited : ∀ triple ∈ triples, triple.Delimited)
    (delimited' : ∀ triple ∈ others, triple.Delimited)
    (closed : ¬ opening predicate <+: rest) (closed' : ¬ opening predicate <+: tail)
    (same : (block predicate triples).toList ++ rest = (block predicate others).toList ++ tail) :
    triples = others ∧ rest = tail := by
  rw [toList_block, toList_block] at same
  by_cases empty : triples = []
  · by_cases empty' : others = []
    · exact ⟨empty.trans empty'.symm, by simpa [empty, empty'] using same⟩
    · rw [if_pos empty, if_neg empty', List.nil_append] at same
      refine absurd ⟨entries others ++ [' ', '\x7d'] ++ tail, ?_⟩ closed
      rw [same]
      simp only [List.append_assoc]
  · by_cases empty' : others = []
    · rw [if_neg empty, if_pos empty', List.nil_append] at same
      refine absurd ⟨entries triples ++ [' ', '\x7d'] ++ rest, ?_⟩ closed'
      rw [← same]
      simp only [List.append_assoc]
    · rw [if_neg empty, if_neg empty'] at same
      simp only [List.append_assoc, List.append_cancel_left_eq, List.cons_append,
        List.nil_append] at same
      exact entries_append_inj delimited delimited' same

end Blocks

/-- After the block of the inserts there is none of its kind. -/
theorem not_opening_inserts (triples : List Triple) :
    ¬ opening Solid.inserts <+: (block Solid.deletes triples).toList ++ ".\n".toList := by
  rw [toList_block]
  intro opened
  split at opened
  · exact absurd opened (by decide)
  · have both : opening Solid.deletes <+:
        opening Solid.deletes ++ entries triples ++ [' ', '\x7d'] ++ ".\n".toList := by
      simp only [List.append_assoc]
      exact List.prefix_append _ _
    have one := List.prefix_of_prefix_length_le opened both (by decide)
    exact absurd one (by decide)

/-- Two patches have one document if and only if they insert the same triples and delete the same triples,
in the same order. An IRI that N-Triples can write has no bracket, and a label or a tag without white space
no blank, so the condition is a weak one. -/
theorem text_tells_apart {patch other : Patch} (delimited : patch.Delimited) (delimited' : other.Delimited) :
    patch.text = other.text ↔ patch.inserts = other.inserts ∧ patch.deletes = other.deletes := by
  constructor
  · intro same
    have same : (block Solid.inserts patch.inserts).toList ++
        ((block Solid.deletes patch.deletes).toList ++ ".\n".toList) =
        (block Solid.inserts other.inserts).toList ++
        ((block Solid.deletes other.deletes).toList ++ ".\n".toList) := by
      have same := congrArg String.toList same
      simpa only [text, String.toList_append, List.append_assoc, List.append_cancel_left_eq] using same
    obtain ⟨inserts, later⟩ := block_append_inj delimited.1 delimited'.1
      (not_opening_inserts patch.deletes) (not_opening_inserts other.deletes) same
    obtain ⟨deletes, -⟩ := block_append_inj delimited.2 delimited'.2 (by decide) (by decide) later
    exact ⟨inserts, deletes⟩
  · rintro ⟨inserts, deletes⟩
    rw [text, text, inserts, deletes]

/-- A patch that inserts a value with the end of a block and the start of another one in it. -/
def smuggling : Patch where
  inserts := [⟨.iri "http://example.org/joe#joe", "http://schema.org/name", .literal (.simple
    "Joe\" . \x7d;\n  <http://www.w3.org/ns/solid/terms#deletes> \x7b _:a <http://schema.org/name> \"Ada")⟩]
  deletes := []

/-- A patch that inserts one of its values and deletes the other. -/
def replacing : Patch where
  inserts := [⟨.iri "http://example.org/joe#joe", "http://schema.org/name", .literal (.simple "Joe")⟩]
  deletes := [⟨.blank "a", "http://schema.org/name", .literal (.simple "Ada")⟩]

/-- The value of the first patch would make it the second one, had it no escapes. -/
theorem smuggling_text_ne_replacing :
    smuggling.Delimited ∧ replacing.Delimited ∧ smuggling.text ≠ replacing.text := by
  have delimited : smuggling.Delimited := by decide
  have delimited' : replacing.Delimited := by decide
  refine ⟨delimited, delimited', fun same => ?_⟩
  have deletes := ((text_tells_apart delimited delimited').1 same).2
  exact List.cons_ne_nil _ _ deletes.symm

end Patch

end LinkedShapes.Ldp
