import SchemaGraph.Json.Display

/-! Descriptions.

A schema's title and description make one description: joined by a colon if both
say something, and otherwise whichever does, exactly as it was given. -/
namespace SchemaGraph

/-- One description out of a title and a description. -/
def describe (title description : Json) : Json :=
  if title.truthy && description.truthy then
    .str (title.display ++ ": " ++ description.display)
  else if title.truthy then title
  else if description.truthy then description
  else .null

end SchemaGraph
