/-!
# Vocabularies

The IRIs that shapes, datatypes and resources are described with.
-/

namespace LinkedShapes.Rdf

namespace RdfSyntax

/-- The namespace of the vocabulary of RDF. -/
def namespaceIri : String := "http://www.w3.org/1999/02/22-rdf-syntax-ns#"

/-- The class of a resource. -/
def type : String := "http://www.w3.org/1999/02/22-rdf-syntax-ns#type"

/-- The class of a literal with a language tag. -/
def langString : String := "http://www.w3.org/1999/02/22-rdf-syntax-ns#langString"

/-- The first member of a list. -/
def first : String := "http://www.w3.org/1999/02/22-rdf-syntax-ns#first"

/-- The members of a list after the first. -/
def rest : String := "http://www.w3.org/1999/02/22-rdf-syntax-ns#rest"

/-- The empty list. -/
def nil : String := "http://www.w3.org/1999/02/22-rdf-syntax-ns#nil"

/-- The class of the resources that stand for statements. -/
def statement : String := "http://www.w3.org/1999/02/22-rdf-syntax-ns#Statement"

/-- The subject of a statement. -/
def subject : String := "http://www.w3.org/1999/02/22-rdf-syntax-ns#subject"

/-- The predicate of a statement. -/
def predicate : String := "http://www.w3.org/1999/02/22-rdf-syntax-ns#predicate"

/-- The object of a statement. -/
def object : String := "http://www.w3.org/1999/02/22-rdf-syntax-ns#object"

/-- The datatype of markup. -/
def xmlLiteral : String := "http://www.w3.org/1999/02/22-rdf-syntax-ns#XMLLiteral"

end RdfSyntax

namespace Xsd

/-- The namespace of the built-in datatypes. -/
def namespaceIri : String := "http://www.w3.org/2001/XMLSchema#"

/-- Signed 32-bit integers. -/
def int : String := "http://www.w3.org/2001/XMLSchema#int"
/-- Integers. -/
def integer : String := "http://www.w3.org/2001/XMLSchema#integer"
/-- Signed 64-bit integers. -/
def long : String := "http://www.w3.org/2001/XMLSchema#long"
/-- Signed 16-bit integers. -/
def short : String := "http://www.w3.org/2001/XMLSchema#short"
/-- Single precision numbers. -/
def float : String := "http://www.w3.org/2001/XMLSchema#float"
/-- Double precision numbers. -/
def double : String := "http://www.w3.org/2001/XMLSchema#double"
/-- Decimal numbers. -/
def decimal : String := "http://www.w3.org/2001/XMLSchema#decimal"
/-- Character strings. -/
def string : String := "http://www.w3.org/2001/XMLSchema#string"
/-- Truth values. -/
def boolean : String := "http://www.w3.org/2001/XMLSchema#boolean"

end Xsd

namespace Shacl

/-- The class of node shapes. -/
def nodeShape : String := "http://www.w3.org/ns/shacl#NodeShape"
/-- Links a shape to the class whose instances it describes. -/
def targetClass : String := "http://www.w3.org/ns/shacl#targetClass"
/-- Links a shape to its property shapes. -/
def property : String := "http://www.w3.org/ns/shacl#property"
/-- The predicate a property shape constrains. -/
def path : String := "http://www.w3.org/ns/shacl#path"
/-- The readable name of a property shape. -/
def name : String := "http://www.w3.org/ns/shacl#name"
/-- The datatype of the values of a property. -/
def datatype : String := "http://www.w3.org/ns/shacl#datatype"
/-- The class of the values of a property. -/
def valueClass : String := "http://www.w3.org/ns/shacl#class"
/-- The minimum number of values of a property. -/
def minCount : String := "http://www.w3.org/ns/shacl#minCount"
/-- The maximum number of values of a property. -/
def maxCount : String := "http://www.w3.org/ns/shacl#maxCount"

end Shacl

namespace Ldp

/-- Links a container to the resources it contains. -/
def contains : String := "http://www.w3.org/ns/ldp#contains"
/-- The class of containers. -/
def container : String := "http://www.w3.org/ns/ldp#Container"
/-- The class of containers whose members are the resources they contain. -/
def basicContainer : String := "http://www.w3.org/ns/ldp#BasicContainer"

end Ldp

namespace Solid

/-- The class of patch documents. -/
def insertDeletePatch : String := "http://www.w3.org/ns/solid/terms#InsertDeletePatch"
/-- Links a patch to the triples it inserts. -/
def inserts : String := "http://www.w3.org/ns/solid/terms#inserts"
/-- Links a patch to the triples it deletes. -/
def deletes : String := "http://www.w3.org/ns/solid/terms#deletes"

end Solid

end LinkedShapes.Rdf
