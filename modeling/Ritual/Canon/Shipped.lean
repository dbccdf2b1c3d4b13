namespace Ritual

/-!
# The canon at hand

This canon is used when no file gives one.  It is kept as the text of a canon document
and is read in the same way as a file, each time that it is asked for.
-/

namespace CanonDocument

/-- The lines of the document that is at hand. -/
def shippedLines : List String := [
  "# CodeCraft canon lock: schools and the operations each one permits.",
  "# Operation names are \"<school>:<operation>\".",
  "version: \"1.3.0\"",
  "schools:",
  "  alchemy:",
  "    name: Alchemy",
  "    law:",
  "      operations:",
  "        - name: \"alchemy:transmute\"",
  "        - name: \"alchemy:distill\"",
  "        - name: \"alchemy:catalyze\"",
  "  amplification:",
  "    name: Amplification",
  "    law:",
  "      operations:",
  "        - name: \"amplification:amplify\"",
  "        - name: \"amplification:resonate\"",
  "        - name: \"amplification:echo\"",
  "  binding:",
  "    name: Binding",
  "    law:",
  "      operations:",
  "        - name: \"binding:bind\"",
  "        - name: \"binding:contract\"",
  "        - name: \"binding:seal\"",
  "  cantrip:",
  "    name: Cantrip",
  "    law:",
  "      operations:",
  "        - name: \"cantrip:cantrip\"",
  "        - name: \"cantrip:quickcast\"",
  "  conjure:",
  "    name: Conjure",
  "    law:",
  "      operations:",
  "        - name: \"conjure:conjure\"",
  "        - name: \"conjure:materialize\"",
  "        - name: \"conjure:summon\"",
  "  divination:",
  "    name: Divination",
  "    law:",
  "      operations:",
  "        - name: \"divination:scry\"",
  "        - name: \"divination:foresee\"",
  "        - name: \"divination:reveal\"",
  "  enchantment:",
  "    name: Enchantment",
  "    law:",
  "      operations:",
  "        - name: \"enchantment:enchant\"",
  "        - name: \"enchantment:imbue\"",
  "        - name: \"enchantment:empower\"",
  "  flow:",
  "    name: Flow",
  "    law:",
  "      operations:",
  "        - name: \"flow:branch\"",
  "        - name: \"flow:loop\"",
  "        - name: \"flow:cascade\"",
  "  invoke:",
  "    name: Invoke",
  "    law:",
  "      operations:",
  "        - name: \"invoke:invoke\"",
  "        - name: \"invoke:call\"",
  "        - name: \"invoke:execute\"",
  "  metamagic:",
  "    name: Metamagic",
  "    law:",
  "      operations:",
  "        - name: \"metamagic:reflect\"",
  "        - name: \"metamagic:adapt\"",
  "        - name: \"metamagic:transform\"",
  "  observation:",
  "    name: Observation",
  "    law:",
  "      operations:",
  "        - name: \"observation:observe\"",
  "        - name: \"observation:measure\"",
  "        - name: \"observation:witness\"",
  "  ritual:",
  "    name: Ritual",
  "    law:",
  "      operations:",
  "        - name: \"ritual:begin_ritual\"",
  "        - name: \"ritual:end_ritual\"",
  "        - name: \"ritual:checkpoint\"",
  "  rune:",
  "    name: Rune",
  "    law:",
  "      operations:",
  "        - name: \"rune:inscribe\"",
  "        - name: \"rune:activate\"",
  "        - name: \"rune:charge\"",
  "  transmutation:",
  "    name: Transmutation",
  "    law:",
  "      operations:",
  "        - name: \"transmutation:reshape\"",
  "        - name: \"transmutation:convert\"",
  "        - name: \"transmutation:morph\"",
  "  warding:",
  "    name: Warding",
  "    law:",
  "      operations:",
  "        - name: \"warding:protect\"",
  "        - name: \"warding:shield\"",
  "        - name: \"warding:guard\"",
  "  weaving:",
  "    name: Weaving",
  "    law:",
  "      operations:",
  "        - name: \"weaving:weave\"",
  "        - name: \"weaving:thread\"",
  "        - name: \"weaving:pattern\"",
  "  web:",
  "    name: Web",
  "    law:",
  "      operations:",
  "        - name: \"web:fetch\"",
  "        - name: \"web:render\"",
  "        - name: \"web:interact\"",
  "  whisper:",
  "    name: Whisper",
  "    law:",
  "      operations:",
  "        - name: \"whisper:whisper\"",
  "        - name: \"whisper:broadcast\"",
  "        - name: \"whisper:listen\"",
  "  aether:",
  "    name: Aether",
  "    law:",
  "      operations:",
  "        - name: \"aether:aether_cast\"",
  "        - name: \"aether:channel\"",
  "        - name: \"aether:attune\"",
  "  necromancy:",
  "    name: Necromancy",
  "    law:",
  "      operations:",
  "        - name: \"necromancy:store_memory\"",
  "        - name: \"necromancy:raise_dead\"",
  "        - name: \"necromancy:resurrect\"",
  "block_types: [PYTHON, JS, JAVASCRIPT, WEB, QUANTUM, NATIVE, BLUEPRINT, LANGUAGE]"]

/-- The text of the document that is at hand.  What it holds is told by reading it alone, so
no proof looks into it. -/
@[irreducible] def shippedText : String :=
  String.join (shippedLines.map (· ++ "\n"))

end CanonDocument
end Ritual
