import LinkQuality.Binary64.Arithmetic
import LinkQuality.Forest.Bundle
import LinkQuality.Json.Reader
import LinkQuality.Json.Record

/-!
# The JSON form of bundles

A bundle is an object with its trees, its vote and its statistics. Only the vote may be left out.
A tree is an object with its nodes, and every member of a node may be left out.
-/

namespace LinkQuality

open Json

/-- The name of a vote. -/
def Vote.name : Vote → String
  | .mean => "mean"
  | .majority => "majority_vote"

/-- The vote with a name. -/
def Vote.ofName? (name : String) : Option Vote :=
  if name = Vote.mean.name then some .mean
  else if name = Vote.majority.name then some .majority
  else none

/-- Reads a vote: its name, or an object in which the name stands alone and means nothing. -/
def Vote.ofJson? : Json → Option Vote
  | .object [(some name, .null)] => Vote.ofName? name
  | json => json.text?.bind Vote.ofName?

/-- Reads a node. -/
def NodeRecord.ofJson? (json : Json) : Option (NodeRecord Float) := do
  let fields ← json.fields?
    ["split_feature", "split_threshold", "left_child", "right_child", "positive_probability"]
  let feature ← fields.optional "split_feature" int64? (-1)
  let threshold ← fields.optional "split_threshold" float? 0
  let left ← fields.optional "left_child" int64? (-1)
  let right ← fields.optional "right_child" int64? (-1)
  let probability ← fields.optional "positive_probability" float? 0
  some { feature, threshold, left, right, probability }

namespace Bundle

/-- Reads the nodes of a tree. -/
def treeOfJson? (json : Json) : Option (List (NodeRecord Float)) := do
  let fields ← json.fields? ["nodes"]
  fields.required "nodes" (list? NodeRecord.ofJson?)

/-- Reads a bundle. -/
def ofJson? (json : Json) : Option (Bundle Float) := do
  let fields ← json.fields?
    ["decision_trees", "aggregation", "feature_norm_means", "feature_norm_stds"]
  let trees ← fields.required "decision_trees" (list? treeOfJson?)
  let vote ← fields.optional "aggregation" Vote.ofJson? .mean
  let means ← fields.required "feature_norm_means" (list? float?)
  let stds ← fields.required "feature_norm_stds" (list? float?)
  some { trees, vote, means, stds }

/-- Reads the text of a bundle. -/
def read? (text : String) : Option (Bundle Float) := (Json.read? text).bind ofJson?

end Bundle

end LinkQuality
