import BrokerBootstrap.Command.Arguments

namespace BrokerBootstrap.Command

inductive Shell where
  | bash
  | zsh
  | fish
  | powershell
  deriving DecidableEq, Repr

namespace Shell

def all : List Shell := [bash, zsh, fish, powershell]

def name : Shell → String
  | bash => "bash"
  | zsh => "zsh"
  | fish => "fish"
  | powershell => "powershell"

def ofName? (text : String) : Option Shell := all.find? (·.name = text)

end Shell

namespace Completion

def requestVariable : String := "_KAFKA_INIT_COMPLETE"

def lineVariable : String := "COMP_WORDS"

def cursorVariable : String := "COMP_CWORD"

def variableNames : List String := [requestVariable, lineVariable, cursorVariable]

def functionName : String := "_kafka_init_completion"

def scriptLines : Shell → List String
  | .bash =>
      [s!"{functionName}() \x7b",
        "    local IFS=$'\\n'",
        "    local response",
        "",
        "    response=$(env COMP_WORDS=\"$\x7bCOMP_WORDS[*]\x7d\" COMP_CWORD=$COMP_CWORD " ++
          s!"{requestVariable}=bash_complete $1)",
        "",
        "    for completion in $response; do",
        "        IFS=',' read type value <<< \"$completion\"",
        "",
        "        if [[ $type == 'dir' ]]; then",
        "            COMPREPLY=()",
        "            compopt -o dirnames",
        "        elif [[ $type == 'file' ]]; then",
        "            COMPREPLY=()",
        "            compopt -o default",
        "        elif [[ $type == 'plain' ]]; then",
        "            COMPREPLY+=($value)",
        "        fi",
        "    done",
        "",
        "    return 0",
        "\x7d",
        "",
        s!"{functionName}_setup() \x7b",
        s!"    complete -o nosort -F {functionName} {programName}",
        "\x7d",
        "",
        s!"{functionName}_setup;"]
  | .zsh =>
      [s!"#compdef {programName}",
        "",
        s!"{functionName}() \x7b",
        "    local -a completions",
        "    local -a completions_with_descriptions",
        "    local -a response",
        s!"    (( ! $+commands[{programName}] )) && return 1",
        "",
        "    response=(\"$\x7b(@f)$(env COMP_WORDS=\"$\x7bwords[*]\x7d\" " ++
          s!"COMP_CWORD=$((CURRENT-1)) {requestVariable}=zsh_complete {programName})\x7d\")",
        "",
        "    for type key descr in $\x7bresponse\x7d; do",
        "        if [[ \"$type\" == \"plain\" ]]; then",
        "            if [[ \"$descr\" == \"_\" ]]; then",
        "                completions+=(\"$key\")",
        "            else",
        "                completions_with_descriptions+=(\"$key\":\"$descr\")",
        "            fi",
        "        elif [[ \"$type\" == \"dir\" ]]; then",
        "            _path_files -/",
        "        elif [[ \"$type\" == \"file\" ]]; then",
        "            _path_files -f",
        "        fi",
        "    done",
        "",
        "    if [ -n \"$completions_with_descriptions\" ]; then",
        "        _describe -V unsorted completions_with_descriptions -U",
        "    fi",
        "",
        "    if [ -n \"$completions\" ]; then",
        "        compadd -U -V unsorted -a completions",
        "    fi",
        "\x7d",
        "",
        "if [[ $zsh_eval_context[-1] == loadautofunc ]]; then",
        "    # autoload from fpath, call function directly",
        s!"    {functionName} \"$@\"",
        "else",
        "    # eval/source/. command, register function for later",
        s!"    compdef {functionName} {programName}",
        "fi"]
  | .fish =>
      [s!"function {functionName};",
        s!"    set -l response (env {requestVariable}=fish_complete " ++
          s!"COMP_WORDS=(commandline -cp) COMP_CWORD=(commandline -t) {programName});",
        "",
        "    for completion in $response;",
        "        set -l metadata (string split \",\" $completion);",
        "",
        "        if test $metadata[1] = \"dir\";",
        "            __fish_complete_directories $metadata[2];",
        "        else if test $metadata[1] = \"file\";",
        "            __fish_complete_path $metadata[2];",
        "        else if test $metadata[1] = \"plain\";",
        "            echo $metadata[2];",
        "        end;",
        "    end;",
        "end;",
        "",
        s!"complete --no-files --command {programName} --arguments \"({functionName})\";"]
  | .powershell =>
      [s!"Register-ArgumentCompleter -Native -CommandName {programName} -ScriptBlock \x7b",
        "    param($wordToComplete, $commandAst, $cursorPosition)",
        "",
        s!"    $prev_complete = $env:{requestVariable}",
        "    $prev_words = $env:COMP_WORDS",
        "    $prev_cword = $env:COMP_CWORD",
        "",
        s!"    $env:{requestVariable} = 'powershell_complete'",
        "    $env:COMP_WORDS = $commandAst.ToString()",
        "    if ($wordToComplete) \x7b",
        "        $env:COMP_CWORD = $commandAst.CommandElements.Count - 1",
        "    \x7d else \x7b",
        "        $env:COMP_CWORD = $commandAst.CommandElements.Count",
        "    \x7d",
        "",
        "    try \x7b",
        s!"        $response = & {programName} 2>$null",
        "    \x7d finally \x7b",
        s!"        $env:{requestVariable} = $prev_complete",
        "        $env:COMP_WORDS = $prev_words",
        "        $env:COMP_CWORD = $prev_cword",
        "    \x7d",
        "",
        "    if (-not $response) \x7b return \x7d",
        "",
        "    $prefix = \"$wordToComplete*\"",
        "    $lines = $response -split \"`n\"",
        "    for ($i = 0; $i + 2 -lt $lines.Count; $i += 3) \x7b",
        "        $type = $lines[$i]",
        "        $value = $lines[$i + 1]",
        "        $descr = $lines[$i + 2]",
        "        if (-not $type) \x7b continue \x7d",
        "",
        "        if ($type -eq 'plain') \x7b",
        "            $tip = if ($descr -and $descr -ne '_') \x7b $descr \x7d else \x7b $value \x7d",
        "            [System.Management.Automation.CompletionResult]::new(",
        "                $value, $value, 'ParameterValue', $tip)",
        "        \x7d elseif ($type -eq 'dir') \x7b",
        "            Get-ChildItem -Directory -Path $prefix -ErrorAction SilentlyContinue |",
        "                ForEach-Object \x7b",
        "                    [System.Management.Automation.CompletionResult]::new(",
        "                        $_.FullName, $_.Name, 'ProviderContainer', $_.FullName)",
        "                \x7d",
        "        \x7d elseif ($type -eq 'file') \x7b",
        "            Get-ChildItem -Path $prefix -ErrorAction SilentlyContinue |",
        "                ForEach-Object \x7b",
        "                    $kind = 'ProviderItem'",
        "                    if ($_.PSIsContainer) \x7b $kind = 'ProviderContainer' \x7d",
        "                    [System.Management.Automation.CompletionResult]::new(",
        "                        $_.FullName, $_.Name, $kind, $_.FullName)",
        "                \x7d",
        "        \x7d",
        "    \x7d",
        "\x7d"]

def script (shell : Shell) : String := String.intercalate "\n" (scriptLines shell)

end Completion

end BrokerBootstrap.Command
