import LinkedShapes.Resolution.Mutation

/-!
# Resolving fields

A field is resolved by what its directive says it stands for: an identifier or a property is read from
the context of its entity. A field without such a directive is an entry point: on the root of
mutations and on a mutator it changes something, unless a change was made on the way to it, and
elsewhere it looks entities up.
-/

namespace LinkedShapes.Resolution

open Schema

/-- The value of a field. -/
def Resolver.resolve (resolver : Resolver) (request : Request) : Attempt Resolved :=
  match request.field.directive with
  | some .identifier => identifierValue request
  | some (.property property) =>
    match request.field.type.scalar? with
    | some scalar => scalarProperty request property scalar
    | none => relationProperty resolver request property
  | _ =>
    if request.isMutation && !request.isHandled then resolveMutation resolver request
    else entryPoint resolver request

end LinkedShapes.Resolution
