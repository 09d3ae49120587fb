import GraphLink.Config.Chain

/-! # The history of a bag

    What can be done to a bag of options, one step after another: entries are put in and taken out,
    one by one or many at once, and layers take what is theirs.  A step answers and leaves a bag,
    also when it fails. -/

namespace GraphLink.Options

/-- Something that is done to a bag. -/
inductive Step where
  /-- Puts an entry in, in exchange for the one with its key. -/
  | insert (key : String) (value : Value)
  /-- Puts an entry in. -/
  | put (key : String) (value : Value)
  /-- Puts an entry in unless there is one with its key. -/
  | insertNew (key : String) (value : Value)
  /-- Takes an entry out. -/
  | remove (key : String)
  /-- Puts pairs in, one after the other. -/
  | extend (pairs : List (String × Value))
  /-- Starts over, with a bag made of pairs. -/
  | collect (pairs : List (String × Value))
  /-- Takes a layer out. -/
  | take (name : LayerName)
  /-- Takes the workspace layer out, on top of a base. -/
  | takeOver (base : WorkspaceConfig)

namespace Step

/-- What a step says. -/
inductive Answer where
  | done
  /-- The value that the key had. -/
  | previous (value? : Option Value)
  /-- Whether the entry was put in. -/
  | added (new : Bool)
  /-- The configuration that was taken out. -/
  | taken (config : Except Fault LayerConfig)

/-- Does a step. -/
def run : Step → Options → Answer × Options
  | .insert key value, o => (.previous (o.get? key), o.insert key value)
  | .put key value, o => (.done, o.insert key value)
  | .insertNew key value, o => let (new, o) := o.insertNew key value; (.added new, o)
  | .remove key, o => (.previous (o.get? key), o.erase key)
  | .extend pairs, o => (.done, o.insertMany pairs)
  | .collect pairs, _ => (.done, SortedMap.ofList pairs)
  | .take name, o => let (config, o) := name.take o; (.taken config, o)
  | .takeOver base, o =>
      let (config, o) := WorkspaceConfig.layer.takeOver base o
      (.taken (config.map .workspace), o)

end Step

/-- The bag after steps, the first of which finds it empty. -/
def after (steps : List Step) : Options :=
  steps.foldl (fun o step => (step.run o).2) SortedMap.empty

end GraphLink.Options
