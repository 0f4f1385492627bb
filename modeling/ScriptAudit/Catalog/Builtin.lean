import ScriptAudit.Catalog

/-!
# The built-in rules

The constructs that a skill's scripts are searched for. Each rule sees one line at
a time, so a construct whose arguments span several lines is not found.
-/

namespace ScriptAudit
namespace Catalog

/-- The rules that fail a Python script. -/
def pythonHigh : RuleTable where
  language := .python
  tier := .high
  rules :=
    [⟨"PY-001",
        "\\beval\\s*\\(",
        "eval() - arbitrary code execution"⟩,
      ⟨"PY-002",
        "\\bexec\\s*\\(",
        "exec() - arbitrary code execution"⟩,
      ⟨"PY-003",
        "__import__\\s*\\(",
        "dynamic import - potential code injection"⟩,
      ⟨"PY-004",
        "compile\\s*\\([^)]+['\"]exec['\"]\\s*\\)",
        "compile with exec mode"⟩,
      ⟨"PY-005",
        "os\\.system\\s*\\(",
        "os.system() - shell command execution"⟩,
      ⟨"PY-006",
        "subprocess\\.call\\s*\\([^)]*shell\\s*=\\s*True",
        "subprocess with shell=True"⟩,
      ⟨"PY-007",
        "subprocess\\.Popen\\s*\\([^)]*shell\\s*=\\s*True",
        "Popen with shell=True"⟩,
      ⟨"PY-008",
        "subprocess\\.run\\s*\\([^)]*shell\\s*=\\s*True",
        "subprocess.run with shell=True"⟩,
      ⟨"PY-009",
        "['\"]/etc/",
        "access to /etc/ system directory"⟩,
      ⟨"PY-010",
        "['\"]/root/",
        "access to /root/ directory"⟩,
      ⟨"PY-011",
        "['\"]~/\\.ssh/",
        "access to SSH keys"⟩,
      ⟨"PY-012",
        "['\"]~/\\.aws/",
        "access to AWS credentials"⟩,
      ⟨"PY-013",
        "['\"]~/\\.config/",
        "access to user config"⟩,
      ⟨"PY-014",
        "\\.env['\"\\s]",
        "access to .env file"⟩,
      ⟨"PY-015",
        "requests\\.(post|put|patch)\\s*\\(\\s*['\"](https?://(?!localhost|127\\.0\\.0\\.1))",
        "external data transmission"⟩,
      ⟨"PY-016",
        "urllib\\.request\\.urlopen",
        "URL open - potential SSRF"⟩,
      ⟨"PY-017",
        "socket\\.connect\\s*\\(",
        "raw socket connection"⟩,
      ⟨"PY-018",
        "base64\\.b64decode\\s*\\([^)]+\\).*exec",
        "base64 decode with execution"⟩,
      ⟨"PY-019",
        "pickle\\.load",
        "pickle.load - arbitrary code execution"⟩]

/-- The rules that give advice on a Python script. -/
def pythonMedium : RuleTable where
  language := .python
  tier := .medium
  rules :=
    [⟨"PY-101",
        "ctypes\\.",
        "ctypes usage - native code"⟩,
      ⟨"PY-102",
        "importlib\\.",
        "dynamic import"⟩,
      ⟨"PY-103",
        "getattr\\s*\\([^,]+,\\s*[^'\"]+\\)",
        "getattr with dynamic attribute"⟩,
      ⟨"PY-104",
        "yaml\\.load\\s*\\([^)]*(?!Loader\\s*=\\s*yaml\\.SafeLoader)",
        "unsafe yaml.load"⟩]

/-- The rules that fail a shell script. -/
def bashHigh : RuleTable where
  language := .bash
  tier := .high
  rules :=
    [⟨"SH-001",
        "rm\\s+-rf\\s+/",
        "rm -rf on root path"⟩,
      ⟨"SH-002",
        "rm\\s+-rf\\s+\\*",
        "rm -rf with wildcard"⟩,
      ⟨"SH-003",
        "curl\\s+[^|]+\\|\\s*(ba)?sh",
        "curl piped to shell"⟩,
      ⟨"SH-004",
        "wget\\s+[^|]+\\|\\s*(ba)?sh",
        "wget piped to shell"⟩,
      ⟨"SH-005",
        "\\beval\\s+",
        "bash eval command"⟩,
      ⟨"SH-006",
        "cat\\s+/etc/passwd",
        "reading /etc/passwd"⟩,
      ⟨"SH-007",
        "cat\\s+/etc/shadow",
        "reading /etc/shadow"⟩,
      ⟨"SH-008",
        "cat\\s+~/\\.ssh/id_",
        "reading SSH private key"⟩,
      ⟨"SH-009",
        "\\$\\([^)]*curl",
        "command substitution with curl"⟩,
      ⟨"SH-010",
        "`[^`]*curl",
        "backtick execution with curl"⟩]

/-- The rules that give advice on a shell script. -/
def bashMedium : RuleTable where
  language := .bash
  tier := .medium
  rules :=
    [⟨"SH-101",
        "chmod\\s+777",
        "chmod 777 - insecure permissions"⟩,
      ⟨"SH-102",
        "\\bsudo\\s+",
        "sudo usage"⟩]

/-- The rules that fail a JavaScript script. -/
def javascriptHigh : RuleTable where
  language := .javascript
  tier := .high
  rules :=
    [⟨"JS-001",
        "\\beval\\s*\\(",
        "eval() - arbitrary code execution"⟩,
      ⟨"JS-002",
        "new\\s+Function\\s*\\(",
        "Function constructor - code execution"⟩,
      ⟨"JS-003",
        "child_process\\.(exec|execSync)\\s*\\(",
        "shell command execution"⟩,
      ⟨"JS-004",
        "child_process\\.spawn\\s*\\([^)]*shell:\\s*true",
        "spawn with shell option"⟩,
      ⟨"JS-005",
        "require\\s*\\(\\s*['\"]child_process",
        "importing child_process"⟩,
      ⟨"JS-006",
        "fs\\.(readFileSync|readFile)\\s*\\([^)]*(?:/etc/|~/\\.ssh|~/\\.aws)",
        "reading sensitive files"⟩]

/-- The rules that give advice on a JavaScript script. -/
def javascriptMedium : RuleTable where
  language := .javascript
  tier := .medium
  rules :=
    [⟨"JS-101",
        "require\\s*\\(\\s*[a-zA-Z_][a-zA-Z0-9_]*\\s*\\)",
        "dynamic require"⟩]

/-- The tables of the built-in rules. -/
def builtinTables : List RuleTable :=
  [pythonHigh, pythonMedium, bashHigh, bashMedium, javascriptHigh, javascriptMedium]

/-- The built-in catalogue. -/
def builtin : Catalog :=
  (compile builtinTables).toOption.getD ⟨[]⟩

end Catalog
end ScriptAudit
