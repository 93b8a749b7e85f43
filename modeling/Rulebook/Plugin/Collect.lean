import Rulebook.Plugin.Basic

/-!
The makers that plugins offer, and the registry that has them beside those of a base. Each step works
on the plugins in the order in which they are visited: of two offers under one name the first counts,
and a plugin whose hook fails or gives back anything but a map offers nothing. A registry takes every
offer whose name is a text, not blank and not in the base, and that can be called.
-/

namespace Rulebook

/-- Offers of makers by name, in order. -/
abbrev Offers := List (Scalar × Offer Maker)

/-- Adds the offers of one plugin to those before. -/
def Offers.addAll (plugin : String) (collected : Offers) : Offers → Run Offers
  | [] => .ret collected
  | (name, offer) :: rest =>
    if (Ordered.get? name collected).isSome then do
      .note (.duplicateOffer name plugin)
      Offers.addAll plugin collected rest
    else Offers.addAll plugin (collected ++ [(name, offer)]) rest

/-- Adds what the hook of a plugin gives back. -/
def Offers.addFrom (collected : Offers) (plugin : String) : Option Offering → Run Offers
  | none | some .nothing => .ret collected
  | some (.failure _) => do
    .note (.pluginFailed plugin)
    return collected
  | some .junk => do
    .note (.pluginOfferedNoRules plugin)
    return collected
  | some (.offers makers) => Offers.addAll plugin collected makers

/-- The offers of some plugins, added to those before. -/
def Offers.collectFrom (collected : Offers) : List (String × Plugin) → Run Offers
  | [] => .ret collected
  | (name, p) :: rest => do Offers.collectFrom (← collected.addFrom name p.call?) rest

/-- The offers that a registry with a base can take, by name. -/
def Offers.usable (base : Registry Maker) : Offers → Run (List (String × Offer Maker))
  | [] => .ret []
  | (name, offer) :: rest =>
    match name, offer with
    | .text s, offer => do
      if (bareName s).isEmpty then
        .note (.badOfferName name)
        Offers.usable base rest
      else if base.contains (bareName s) then
        .note (.offerConflict s)
        Offers.usable base rest
      else
        match offer with
        | .inert => do
          .note (.offerNotCallable s)
          Offers.usable base rest
        | .callable maker => return (s, .callable maker) :: (← Offers.usable base rest)
    | name, _ => do
      .note (.badOfferName name)
      Offers.usable base rest

namespace Plugins

/-- The offers of all plugins. -/
def collect (ps : Plugins) : Run Offers := Offers.collectFrom [] ps.visited

/-- The base itself if no offer can be taken, and otherwise a frozen registry with the base and the
offers. -/
def buildRegistry (ps : Plugins) (base : Registry Maker) : Run (Registry Maker) := do
  let accepted ← Offers.usable base (← ps.collect)
  if accepted.isEmpty then return base
  .note (.extending (sortTexts (accepted.map (·.1))))
  base.extend accepted

end Plugins

end Rulebook
