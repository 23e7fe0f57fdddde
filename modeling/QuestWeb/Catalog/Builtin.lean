import QuestWeb.Catalog.Decoder
import QuestWeb.Ron.Reader

/-!
The catalog that comes with the library, and catalogs read from text.
-/

namespace QuestWeb.Catalog

def builtinLines : List String := [
  "// The Authority Web: five narrative domains feeding one ladder of gates.",
  "Catalog(",
  "    arc_length: 18,",
  "    keystone_seals: 3,",
  "    regions: [",
  "        Region(id: \"eldhollow\", name: \"Eldhollow\"),",
  "        Region(id: \"fenmire\", name: \"Fenmire\"),",
  "        Region(id: \"blightlands\", name: \"Blightlands\"),",
  "        Region(id: \"hollow_city\", name: \"Hollow City\"),",
  "        Region(id: \"vale_of_bones\", name: \"Vale of Bones\"),",
  "        Region(id: \"gallows_shoal\", name: \"Gallows Shoal\"),",
  "    ],",
  "    verbs: [\"Gather\", \"Undo\", \"Carry\", \"Refuse\", \"Return\", \"Name\", \"Bury\", " ++
    "\"Bind\", \"Release\", \"Cross\"],",
  "    domains: [",
  "        Domain(",
  "            key: \"INK\",",
  "            clause: \"ink\",",
  "            title: \"Ink\",",
  "            virtue: \"clarity\",",
  "            wound: \"rewriting\",",
  "            verb: \"name\",",
  "            ending: \"procedure\",",
  "            palette: [\"ledger\", \"ash-ink\", \"vellum\", \"margins\"],",
  "            speakers: [\"Scribe\", \"Archivist\", \"Ink-Warden\"],",
  "            nouns: [\"Margin\", \"Ledger\", \"Pale Signature\", \"Redaction\", \"Archive\", " ++
    "\"Counterfeit Name\"],",
  "        ),",
  "        Domain(",
  "            key: \"BLOOD\",",
  "            clause: \"blood\",",
  "            title: \"Blood\",",
  "            virtue: \"courage\",",
  "            wound: \"violence\",",
  "            verb: \"take\",",
  "            ending: \"force\",",
  "            palette: [\"scar\", \"salt\", \"iron\", \"pulse\"],",
  "            speakers: [\"Warden\", \"Butcher-Saint\", \"Oathbreaker\"],",
  "            nouns: [\"Oath\", \"Blade\", \"Scar\", \"Salt-River\", \"Banner\", \"Hound\"],",
  "        ),",
  "        Domain(",
  "            key: \"SILENCE\",",
  "            clause: \"silence\",",
  "            title: \"Silence\",",
  "            virtue: \"mercy\",",
  "            wound: \"withholding\",",
  "            verb: \"withhold\",",
  "            ending: \"mercy\",",
  "            palette: [\"hush\", \"fog\", \"threshold\", \"unspoken\"],",
  "            speakers: [\"Bell-Keeper\", \"Confessor\", \"Mute Knight\"],",
  "            nouns: [\"Bell\", \"Hush\", \"Confession\", \"Door\", \"Breath\", \"Unsaid\"],",
  "        ),",
  "        Domain(",
  "            key: \"DEBT\",",
  "            clause: \"debt\",",
  "            title: \"Debt\",",
  "            virtue: \"duty\",",
  "            wound: \"possession\",",
  "            verb: \"owe\",",
  "            ending: \"obligation\",",
  "            palette: [\"coin\", \"link\", \"interest\", \"receipt\"],",
  "            speakers: [\"Factor\", \"Usurer\", \"Chain-Priest\"],",
  "            nouns: [\"Chain\", \"Receipt\", \"Interest\", \"Bond\", \"Tithe\", \"Weight\"],",
  "        ),",
  "        Domain(",
  "            key: \"WITNESS\",",
  "            clause: \"witness\",",
  "            title: \"Witness\",",
  "            virtue: \"truth\",",
  "            wound: \"exposure\",",
  "            verb: \"witness\",",
  "            ending: \"truth\",",
  "            palette: [\"lantern\", \"glass\", \"testimony\", \"footprints\"],",
  "            speakers: [\"Lantern-Bearer\", \"Jurist\", \"Gravespeaker\"],",
  "            nouns: [\"Lantern\", \"Testimony\", \"Mirror\", \"Footprint\", \"Ash-Eye\", " ++
    "\"Verdict\"],",
  "        ),",
  "    ],",
  "",
  "    prologue: Beat(",
  "        name: \"The Ladder Wakes\",",
  "        mechanic: \"First contract: choose to enter the Authority web\",",
  "        flavour: 0,",
  "        beat: Some(\"A bell rings without sound. A ledger turns a page by itself. Someone " ++
    "you have never met has filed your name under ‘solvent’.\\n\\nYou decide whether to accept " ++
    "that lie or make it expensive.\"),",
  "    ),",
  "    gates: Gates(",
  "        keystone: Beat(name: \"Keystone Trial\", mechanic: \"Keystone Trial gate " ++
    "(\x7bseals\x7d seals)\", flavour: 0),",
  "        hearing: Beat(name: \"Censure Hearing\", mechanic: \"Choose Reduced vs Defied " ++
    "Censure\", flavour: 2),",
  "        price: Beat(name: \"The Ladder’s Price\", mechanic: \"Finalize your Authority " ++
    "stance\", flavour: 3),",
  "        finale: Beat(name: \"Final: The Rung That Breaks\", mechanic: \"Final confrontation " ++
    "/ ending selection\", flavour: 4),",
  "    ),",
  "",
  "    quest: QuestDefaults(",
  "        kind: \"Main\",",
  "        minutes: 20,",
  "        arc_minutes: 25,",
  "        tags: [\"main\"],",
  "        objectives: [",
  "            \"Explore\",",
  "            \"Investigate\",",
  "            \"Dialogue challenge (Authority Ladder clauses)\",",
  "            \"Conflict (combat or social)\",",
  "            \"A decision with a cost\",",
  "            \"World-state update\",",
  "        ],",
  "        rewards: [\"xp:200\", \"money:200\"],",
  "        mechanic: \"Authority clause choice\",",
  "        motivation: \"Shape Authority, gain leverage, and keep your humanity.\",",
  "        branching: [",
  "            \"Choose a clause (one-time)\",",
  "            \"Trade Censure for leverage\",",
  "            \"Advance a Domain score and unlock seals\",",
  "        ],",
  "        failure: \"Fail-forward: setbacks increase Censure and shift later dialog tone; " ++
    "progress remains possible.\",",
  "    ),",
  "",
  "    prose: Prose(",
  "        premise: \"In \x7bregion\x7d, an Authority clerk has filed the world under the wrong " ++
    "heading. The error is not paper-deep: it changes who is permitted to grieve, who is " ++
    "permitted to eat, and who is permitted to be remembered.\\n\\nThe Domain of \x7btitle\x7d " ++
    "calls it a \x7bpalette_a\x7d. The people call it \x7bpalette_b\x7d. You call it " ++
    "\x7bpalette_c\x7d.\\n\\n\x7bbeat\x7d\",",
  "        default_beat: \"The contract wants a signature. The world wants a person.\",",
  "        invitation_name: \"Invitation: \x7btitle\x7d\",",
  "        invitation_mechanic: \"Choose (or refuse) a clause; establish Domain tone\",",
  "        invitation_beat: \"A messenger offers you a contract written in " ++
    "\x7btitle_lower\x7d.\\nIt promises \x7bvirtue\x7d. It hides \x7bwound\x7d.\\n\\nIf you " ++
    "sign, you become easier to categorize, and harder to erase.\",",
  "        arc_name: \"\x7bname_verb\x7d the \x7bname_noun\x7d\",",
  "        arc_mechanic: \"Authority clause pressure\",",
  "        arc_beat: \"A small rule in \x7btitle\x7d has become a large harm.\\n\\nThe " ++
    "Authority will call it procedure. The hungry will call it weather. You must call it " ++
    "something you can live with.\",",
  "        seal_mechanic: \"Seal ritual (Domain finale)\",",
  "        seal_beat: \"A seal is not a reward. It is a verdict in your favor, stamped onto " ++
    "your skin.\\n\\nYou can take it, and become legible to the Ladder forever.\",",
  "    ),",
  "",
  "    dialog: DialogText(",
  "        intro: \"We pretend the Ladder is a tool.\\nBut tools don’t get hungry.\\n\\nThis is " ++
    "a contract you can feel in your teeth: in \x7bregion\x7d, the Authority has written a rule " ++
    "that decides who gets to be real today.\\n\\nTell me how you will answer it. Not what you " ++
    "want: what you will pay.\",",
  "        hinge_open: \"There are \x7bdomain_count\x7d ways the world keeps score, and none of " ++
    "them are kind.\",",
  "        hinge_line: \"\x7btitle\x7d asks you to \x7bverb\x7d it.\",",
  "        hinge_close: \"Choose, and don’t flatter yourself: even refusal is a clause.\",",
  "        vow: \"Good. Then say it plainly.\\n\\nIf you step forward, the Ladder remembers " ++
    "your weight.\\nIf you step back, it remembers the shape of your absence.\",",
  "        end: \"The contract closes with a sound like a book shutting in an empty " ++
    "room.\\n\\nYou can walk away, but you cannot walk back into who you were.\",",
  "        narrator: \"Narrator\",",
  "        proceed: [",
  "            \"Speak the first line of the contract (begin).\",",
  "            \"Say nothing. Watch how silence signs itself.\",",
  "        ],",
  "        clause_choice: \"Bind yourself to the Clause of \x7btitle\x7d (become " ++
    "\x7bverb\x7d-shaped).\",",
  "        answer_for: \"Answer in \x7btitle\x7d: choose \x7bvirtue\x7d even if it stains you.\",",
  "        answer_against: \"Answer against \x7btitle\x7d: choose restraint and carry the " ++
    "\x7bwound\x7d anyway.\",",
  "        invoke_clause: \"Invoke your Clause. Let the Authority hear the shape of your vow.\",",
  "        close: [",
  "            \"Close the contract (complete this step).\",",
  "            \"Leave it open a moment longer. Breathe. Then close it.\",",
  "        ],",
  "        keystone: KeystoneText(",
  "            speaker: \"Keystone\",",
  "            open: \"Three seals are not a key.\\nThey are proof you can survive the " ++
    "price.\\n\\nThe Keystone Trial does not test strength. It tests what you keep when " ++
    "strength is gone.\",",
  "            enter: [\"Enter the Trial.\", \"Enter anyway. The hesitation is part of it.\"],",
  "            measure: \"You do not win.\\nYou are measured.\\n\\nAnd the measure approves " ++
    "enough of you to let you pass.\",",
  "            take: \"Take the Keystone.\",",
  "        ),",
  "        hearing: HearingText(",
  "            speaker: \"Censor\",",
  "            open: \"The Authority calls this a hearing.\\nYou should call it what it is: a " ++
    "knife that asks politely.\\n\\nYou have carried your signatures here. Now choose what to " ++
    "do with them.\",",
  "            reduce: \"Reduce Censure: accept the ritual, pay the fine, and live smaller.\",",
  "            defy: \"Defy Censure: refuse the ritual, keep your name, and live hunted.\",",
  "            verdict: \"So be it.\\n\\nThe Ladder does not forgive. It only recalculates.\",",
  "            finalize: \"Finalize the record.\",",
  "        ),",
  "        finale: FinaleText(",
  "            speaker: \"Herald\",",
  "            open: \"The Ladder has run out of ordinary steps.\\n\\nWhat remains is the rung " ++
    "that breaks, and the hand that decides whether to hold.\",",
  "            choice: \"Take the crown of \x7bending\x7d (ENDING: \x7bkey\x7d).\",",
  "            ending_suffix: \"\\n\\nEnding: \x7b\x7bENDING_ID\x7d\x7d.\",",
  "        ),",
  "    ),",
  ")"]

def builtinText : String :=
  String.join (builtinLines.map (· ++ "\n"))

inductive TextError where
  | malformed
  | unfit (defect : Defect)
  deriving DecidableEq, Repr

def ofText (text : String) : Except TextError Catalog :=
  match decoder.ofRon? text with
  | none => .error .malformed
  | some catalog =>
      match catalog.validate with
      | .ok () => .ok catalog
      | .error defect => .error (.unfit defect)

def builtin : Except TextError Catalog :=
  ofText builtinText

end QuestWeb.Catalog
