/- The landing page: a form that sends a batch to the gateway it came from. -/
namespace CommandGateway.Api

def landingPage (commandsPath : String) : String :=
  String.join
    ["<!DOCTYPE html>\n",
      "<html lang=\"en\">\n",
      "<head>\n",
      "  <meta charset=\"utf-8\">\n",
      "  <title>Robot Command Relay</title>\n",
      "  <style>\n",
      "    body \x7b font-family: sans-serif; max-width: 40rem; margin: 3rem auto; \x7d\n",
      "    textarea \x7b width: 100%; height: 10rem; font-family: monospace; \x7d\n",
      "  </style>\n",
      "</head>\n",
      "<body>\n",
      "  <h1>Robot Command Relay</h1>\n",
      "  <p>Post a batch of commands to <code>",
      commandsPath,
      "</code>.</p>\n",
      "  <textarea id=\"batch\">",
      "\x7b\"commands\":[\x7b\"type\":\"say_something\",\"args\":[\"Hello\",\"World\"]\x7d]\x7d",
      "</textarea>\n",
      "  <p><button id=\"send\">Send</button> <span id=\"result\"></span></p>\n",
      "  <script>\n",
      "    document.getElementById('send').addEventListener('click', async () => \x7b\n",
      "      const response = await fetch('",
      commandsPath,
      "', \x7b\n",
      "        method: 'POST',\n",
      "        headers: \x7b 'Content-Type': 'application/json' \x7d,\n",
      "        body: document.getElementById('batch').value,\n",
      "      \x7d);\n",
      "      document.getElementById('result').textContent = response.status;\n",
      "    \x7d);\n",
      "  </script>\n",
      "</body>\n",
      "</html>\n"]

end CommandGateway.Api
